import Typewright.Proofs.Transparency

/-!
What surfacing makes of the groups of a document. A place is a name in the group of a title. No
place disappears, but places are given out by file names and type names alone: of the expansions
that take a place the last one stays there, and what the place held before is gone.
-/
namespace Typewright

instance (expansion : Expansion) (title name : String) : Decidable (expansion.Takes title name) :=
  inferInstanceAs (Decidable (_ ∧ _ ∧ _))

def Expansion.surfaced (expansion : Expansion) : Declaration :=
  expansion.declaration.withoutSelf expansion.target.name

/-- The last of the expansions that take a place. -/
def lastTaker (expansions : List Expansion) (title name : String) : Option Expansion :=
  (expansions.filter fun expansion => expansion.Takes title name).getLast?

section Places
variable {expansions : List Expansion} {expansion : Expansion} {groups : Table Declarations}
variable {title name : String}

theorem declarationAt_of_surface :
    declarationAt (surface groups expansion) title name =
      if expansion.Takes title name then some expansion.surfaced
      else declarationAt groups title name := by
  unfold declarationAt
  rw [surface_find?]
  by_cases grouped : expansion.IsSurfaced ∧ title = expansion.target.groupName
  · obtain ⟨surfaced, rfl⟩ := grouped
    rw [if_pos ⟨surfaced, rfl⟩]
    by_cases own : expansion.target.name = name
    · have takes : expansion.Takes expansion.target.groupName name := ⟨surfaced, rfl, own⟩
      rw [if_pos takes]
      simp [own, Expansion.surfaced]
    · have spares : ¬expansion.Takes expansion.target.groupName name := fun takes => own takes.2.2
      rw [if_neg spares]
      have other : name ≠ expansion.target.name := fun same => own same.symm
      cases known : groups.find? expansion.target.groupName with
      | none => simp [other]
      | some types => simp [other]
  · have spares : ¬expansion.Takes title name := fun takes => grouped ⟨takes.1, takes.2.1.symm⟩
    rw [if_neg grouped, if_neg spares]

theorem lastTaker_append :
    lastTaker (expansions ++ [expansion]) title name =
      if expansion.Takes title name then some expansion else lastTaker expansions title name := by
  unfold lastTaker
  rw [List.filter_append]
  by_cases takes : expansion.Takes title name
  · simp [takes]
  · simp [takes]

theorem declarationAt_foldl_surface :
    declarationAt (expansions.foldl surface groups) title name =
      ((lastTaker expansions title name).map Expansion.surfaced).or
        (declarationAt groups title name) := by
  -- from the right, since the last expansion decides whatever the others did
  induction expansions using List.reverseRecOn with
  | nil => rfl
  | append_singleton earlier last ih =>
    rw [List.foldl_append, List.foldl_cons, List.foldl_nil, declarationAt_of_surface,
      lastTaker_append]
    by_cases takes : last.Takes title name
    · rw [if_pos takes, if_pos takes]
      rfl
    · rw [if_neg takes, if_neg takes]
      exact ih

theorem lastTaker_eq_none :
    lastTaker expansions title name = none ↔
      ∀ expansion ∈ expansions, ¬expansion.Takes title name := by
  simp [lastTaker]

theorem lastTaker_takes (last : lastTaker expansions title name = some expansion) :
    expansion ∈ expansions ∧ expansion.Takes title name := by
  have member : expansion ∈ expansions.filter fun expansion => expansion.Takes title name :=
    List.mem_of_getLast? last
  simpa using member

theorem lastTaker_of_split {earlier later : List Expansion}
    (takes : expansion.Takes title name)
    (spared : ∀ other ∈ later, ¬other.Takes title name) :
    lastTaker (earlier ++ expansion :: later) title name = some expansion := by
  have none_later : later.filter (fun expansion => expansion.Takes title name) = [] := by
    simpa using spared
  unfold lastTaker
  rw [List.filter_append, List.filter_cons_of_pos (by simpa using takes), none_later]
  simp

end Places

/-! Order -/

namespace Table

def Extends (before after : Table α) : Prop := before.keys <+: after.keys

theorem extends_refl (table : Table α) : table.Extends table := List.prefix_rfl

theorem extends_trans {a b c : Table α} (first : a.Extends b) (second : b.Extends c) :
    a.Extends c := List.IsPrefix.trans first second

theorem extends_put (table : Table α) (name : String) (value : α) :
    table.Extends (table.put name value) := by
  unfold Extends
  rw [keys_put]
  split
  · exact List.prefix_rfl
  · exact List.prefix_append _ _

end Table

structure GroupsExtend (before after : Table Declarations) : Prop where
  titles : before.Extends after
  names : ∀ title types, before.find? title = some types →
    ∃ more, after.find? title = some more ∧ types.Extends more

theorem groupsExtend_refl (groups : Table Declarations) : GroupsExtend groups groups where
  titles := groups.extends_refl
  names := fun _ types found => ⟨types, found, types.extends_refl⟩

theorem groupsExtend_trans {a b c : Table Declarations} (first : GroupsExtend a b)
    (second : GroupsExtend b c) : GroupsExtend a c where
  titles := Table.extends_trans first.titles second.titles
  names := by
    intro title types found
    obtain ⟨more, foundMore, extendsMore⟩ := first.names title types found
    obtain ⟨most, foundMost, extendsMost⟩ := second.names title more foundMore
    exact ⟨most, foundMost, Table.extends_trans extendsMore extendsMost⟩

theorem surface_extends (groups : Table Declarations) (expansion : Expansion) :
    GroupsExtend groups (surface groups expansion) where
  titles := by
    unfold surface
    dsimp only
    split
    · exact groups.extends_put _ _
    · exact groups.extends_refl
  names := by
    intro title types found
    rw [surface_find?]
    split
    · rw [found, Option.getD_some]
      exact ⟨_, rfl, types.extends_put _ _⟩
    · exact ⟨types, found, types.extends_refl⟩

theorem foldl_surface_extends (expansions : List Expansion) (groups : Table Declarations) :
    GroupsExtend groups (expansions.foldl surface groups) := by
  induction expansions generalizing groups with
  | nil => exact groupsExtend_refl groups
  | cons first rest ih => exact groupsExtend_trans (surface_extends groups first) (ih _)

/-! What stays and what goes -/

structure Surfaces (expansions : List Expansion) (before after : Table Declarations) : Prop where
  ordered : GroupsExtend before after
  filled : ∀ title name, (declarationAt before title name).isSome →
    (declarationAt after title name).isSome
  spared : ∀ title name, (∀ expansion ∈ expansions, ¬expansion.Takes title name) →
    declarationAt after title name = declarationAt before title name
  /-- The last expansion that takes a place stays there, whatever was there before. -/
  taken : ∀ earlier expansion later title name, expansions = earlier ++ expansion :: later →
    expansion.Takes title name → (∀ other ∈ later, ¬other.Takes title name) →
    declarationAt after title name = some expansion.surfaced
  held : ∀ expansion ∈ expansions, expansion.IsSurfaced →
    (∀ other ∈ expansions, other.Takes expansion.target.groupName expansion.target.name →
      other.target = expansion.target) →
    ∃ other ∈ expansions, other.target = expansion.target ∧
      declarationAt after expansion.target.groupName expansion.target.name = some other.surfaced

/-- Surfacing leaves every place filled; a place is lost to the last expansion that takes it, and to
nothing else. -/
theorem surfacing_loses_to_last_taker (memo : Table Expansion) (groups : Table Declarations) :
    Surfaces memo.values groups (surfaceAll memo groups) := by
  have places : ∀ title name, declarationAt (surfaceAll memo groups) title name =
      ((lastTaker memo.values title name).map Expansion.surfaced).or
        (declarationAt groups title name) := fun _ _ => declarationAt_foldl_surface
  refine ⟨foldl_surface_extends memo.values groups, ?filled, ?spared, ?taken, ?held⟩
  case filled =>
    intro title name before
    rw [places, Option.isSome_or, before, Bool.or_true]
  case spared =>
    intro title name spares
    rw [places, lastTaker_eq_none.mpr spares]
    rfl
  case taken =>
    intro earlier expansion later title name split takes spares
    rw [places, split, lastTaker_of_split takes spares]
    rfl
  case held =>
    intro expansion member surfaced alone
    have takes : expansion.Takes expansion.target.groupName expansion.target.name :=
      ⟨surfaced, rfl, rfl⟩
    cases last : lastTaker memo.values expansion.target.groupName expansion.target.name with
    | none => exact absurd takes (lastTaker_eq_none.mp last expansion member)
    | some other =>
      obtain ⟨isIn, takesToo⟩ := lastTaker_takes last
      refine ⟨other, isIn, alone other isIn takesToo, ?_⟩
      rw [places, last]
      rfl

namespace TakenPlace
open SameName (mapping single object info renderer tokens)

/-! A group `Common` that lists an `Id`, and a document `common.yaml` whose `Id` stands for the `Id`
of a third document. -/

def library : Library where
  documents := [
    (Path.ofString "/common.yaml", .ok (mapping [("types", mapping [
      ("Id", single "$ref" "other.yaml#/types/Id")])])),
    (Path.ofString "/other.yaml", .ok (mapping [("types", mapping [
      ("Id", object [("remote", single "type" "string")])])]))]

def pet : String × Yaml.Value :=
  ("Pet", object [("id", single "$ref" "common.yaml#/types/Id")])

def id : String × Yaml.Value := ("Id", object [("local", single "type" "string")])

def root : Document :=
  ⟨Path.ofString "/spec.yaml", mapping [info, ("types", mapping [pet]),
    ("groupedTypes", mapping [("Common", mapping [id])])]⟩

def spec : Spec :=
  ⟨⟨"1", "t"⟩, some (Table.ofList [pet]), some (Table.ofList [("Common", .types (.ofList [id]))])⟩

def workspace : Workspace := ⟨root, library, tokens, renderer⟩

def idContent (result : Except Failure Generation) : Option String :=
  result.toOption.bind fun generation =>
    (declarationAt generation.groups "Common" "Id").map Declaration.content

/-- The reference to a reference bears the name of its target, so it is surfaced, and the type that
the group lists is lost. -/
theorem listed_type_is_replaced :
    (workspace.schemaAt root "common.yaml#/types/Id").toOption.any
      (fun (_, schema) => schema.isReference) ∧
    idContent ((workspace.perform (root.sites spec.values) (workspace.listAll spec)).run {}).1 =
      some "Id: local" ∧
    idContent ((workspace.declareAll spec).run {}).1 = some "Id: remote" := by
  decide +kernel

end TakenPlace

end Typewright
