import Typewright.Proofs.Listing
import Typewright.Proofs.Unfolding

/-!
Reordering what is listed. Where no reference leads back to itself, the types of a map are declared
alike in every order, and so are the types of other documents that are put into groups, unless two
of them come to stand in one place.
-/
namespace Typewright

namespace Table

def Reorders (a b : Table α) : Prop := a.entries.Perm b.entries

theorem nodup_entries (table : Table α) : table.entries.Nodup := List.Nodup.of_map _ table.nodup

theorem reorders_iff {a b : Table α} : a.Reorders b ↔ ∀ name, a.find? name = b.find? name := by
  constructor
  · intro perm name
    refine Option.ext fun value => ?_
    rw [← mem_entries_iff, ← mem_entries_iff]
    exact perm.mem_iff
  · intro same
    refine (List.perm_ext_iff_of_nodup a.nodup_entries b.nodup_entries).mpr fun (name, value) => ?_
    rw [mem_entries_iff, mem_entries_iff, same]

theorem put_reorders {a b : Table α} {name : String} {value : α} (reorders : a.Reorders b) :
    (a.put name value).Reorders (b.put name value) := by
  rw [reorders_iff] at reorders ⊢
  intro other
  simp only [find?_put, reorders]

theorem put_put_reorders {a b : Table α} {first second : String} {x y : α}
    (apart : first = second → x = y) (reorders : a.Reorders b) :
    ((a.put first x).put second y).Reorders ((b.put second y).put first x) := by
  rw [reorders_iff] at reorders ⊢
  intro other
  simp only [find?_put, reorders]
  by_cases isFirst : other = first
  · by_cases isSecond : other = second
    · simp only [isFirst, ← isSecond.symm.trans isFirst, ↓reduceIte]
      rw [apart (isFirst.symm.trans isSecond)]
    · simp [isFirst, isFirst ▸ isSecond]
  · simp [isFirst]

end Table

inductive Group.Reorders : Group → Group → Prop where
  | types {types other : TypeMap} (reorders : types.Reorders other) :
    Group.Reorders (.types types) (.types other)
  | reference (target : String) : Group.Reorders (.reference target) (.reference target)

structure Spec.Reorders (spec other : Spec) : Prop where
  types : Option.Rel Table.Reorders spec.types other.types
  groups : Option.Rel (fun (a b : Table Group) => List.Forall₂
    (fun x y => x.1 = y.1 ∧ x.2.Reorders y.2) a.entries b.entries) spec.groups other.groups

theorem values_of_reorders {group other : Group} (reorders : group.Reorders other)
    {value : Yaml.Value} (member : value ∈ other.values) : value ∈ group.values := by
  cases reorders with
  | types reorders => exact (reorders.map Prod.snd).mem_iff.mpr member
  | reference target => exact member

theorem groupValues_of_reorders {groups others : List (String × Group)}
    (reorders : List.Forall₂ (fun x y => x.1 = y.1 ∧ x.2.Reorders y.2) groups others)
    {value : Yaml.Value} (member : value ∈ (others.map Prod.snd).flatMap Group.values) :
    value ∈ (groups.map Prod.snd).flatMap Group.values := by
  induction reorders with
  | nil => exact member
  | cons like _ ih =>
    rcases List.mem_append.mp member with first | later
    · exact List.mem_append_left _ (values_of_reorders like.2 first)
    · exact List.mem_append_right _ (ih later)

theorem specValues_of_reorders {spec other : Spec} (reorders : spec.Reorders other)
    {value : Yaml.Value} (member : value ∈ other.values) : value ∈ spec.values := by
  obtain ⟨info, types, groups⟩ := spec
  obtain ⟨otherInfo, otherTypes, otherGroups⟩ := other
  obtain ⟨typesReorder, groupsReorder⟩ := reorders
  rcases List.mem_append.mp member with inTypes | inGroups
  · refine List.mem_append_left _ ?_
    cases typesReorder with
    | none => exact inTypes
    | some reorders => exact (reorders.map Prod.snd).mem_iff.mpr inTypes
  · refine List.mem_append_right _ ?_
    cases groupsReorder with
    | none => exact inGroups
    | some reorders => exact groupValues_of_reorders reorders inGroups

def GroupsReorder (a b : Table Declarations) : Prop :=
  ∀ title, Option.Rel Table.Reorders (a.find? title) (b.find? title)

structure Generation.Reorders (generation other : Generation) : Prop where
  types : generation.types.Reorders other.types
  groups : GroupsReorder generation.groups other.groups

theorem getD_reorders {a b : Option Declarations} (reorders : Option.Rel Table.Reorders a b) :
    (a.getD ∅).Reorders (b.getD ∅) := by
  cases reorders with
  | some reorders => exact reorders
  | none => exact List.Perm.refl _

theorem put_groupsReorder {a b : Table Declarations} {title : String} {x y : Declarations}
    (groups : GroupsReorder a b) (reorders : x.Reorders y) :
    GroupsReorder (a.put title x) (b.put title y) := by
  intro other
  simp only [Table.find?_put]
  split
  · exact .some reorders
  · exact groups other

theorem groupsReorder_refl (groups : Table Declarations) : GroupsReorder groups groups := by
  intro title
  cases groups.find? title with
  | none => exact .none
  | some types => exact .some (List.Perm.refl _)

namespace Workspace
variable {workspace : Workspace} {scope : Document} {keys : List String}

theorem list_reorders {a b : Declarations} {name : String} {schema : Schema}
    {declared : Declaration} (reorders : a.Reorders b) :
    (list name schema declared a).Reorders (list name schema declared b) := by
  unfold list
  split
  · exact reorders
  · exact Table.put_reorders reorders

theorem list_list_reorders {a b : Declarations} {first second : String}
    {firstSchema secondSchema : Schema} {firstMade secondMade : Declaration}
    (apart : first ≠ second) (reorders : a.Reorders b) :
    (list second secondSchema secondMade (list first firstSchema firstMade a)).Reorders
      (list first firstSchema firstMade (list second secondSchema secondMade b)) := by
  unfold list
  split
  · split
    · exact reorders
    · exact Table.put_reorders reorders
  · split
    · exact Table.put_reorders reorders
    · exact Table.put_put_reorders (fun same => absurd same apart) reorders

theorem declareEntries_cons {name : String} {value : Yaml.Value}
    {rest : List (String × Yaml.Value)} {before after : Declarations} :
    workspace.Unfolds (workspace.declareEntries scope ((name, value) :: rest) before) keys
        (.ok after) ↔
      ∃ schema declared first last, keys = first ++ last ∧
        Schema.decodeNamed name value = .ok schema ∧
        workspace.Unfolds (workspace.declare scope name schema) first (.ok declared) ∧
        workspace.Unfolds (workspace.declareEntries scope rest (list name schema declared before))
          last (.ok after) := by
  cases decoded : Schema.decodeNamed name value with
  | error failure =>
    have walk :
        workspace.declareEntries scope ((name, value) :: rest) before = .failed failure := by
      simp only [declareEntries, decoded]
      rfl
    rw [walk]
    constructor
    · intro unfolds
      cases unfolds
    · rintro ⟨_, _, _, _, _, found, _⟩
      cases found
  | ok schema =>
    rw [declareEntries_decoded decoded, unfolds_bind]
    constructor
    · rintro (⟨declared, first, last, same, own, later⟩ | ⟨failure, failed, _⟩)
      · exact ⟨schema, declared, first, last, same, rfl, own, later⟩
      · cases failed
    · rintro ⟨other, declared, first, last, same, found, own, later⟩
      cases found
      exact .inl ⟨declared, first, last, same, own, later⟩

theorem declareEntries_from {entries : List (String × Yaml.Value)} {a b after : Declarations}
    (reorders : a.Reorders b)
    (unfolds : workspace.Unfolds (workspace.declareEntries scope entries a) keys (.ok after)) :
    ∃ result, workspace.Unfolds (workspace.declareEntries scope entries b) keys (.ok result) ∧
      after.Reorders result := by
  induction entries generalizing a b keys with
  | nil =>
    cases unfolds
    exact ⟨b, .done b, reorders⟩
  | cons entry rest ih =>
    obtain ⟨schema, declared, first, last, rfl, decoded, own, later⟩ :=
      declareEntries_cons.mp unfolds
    obtain ⟨result, again, like⟩ := ih (list_reorders reorders) later
    exact ⟨result, declareEntries_cons.mpr ⟨schema, declared, first, last, rfl, decoded, own,
      again⟩, like⟩

/-- Entries of different names are declared alike in every order. The induction is on the
permutation; two neighbours change places because each is declared without the other. -/
theorem declareEntries_reorders {entries others : List (String × Yaml.Value)}
    (perm : entries.Perm others) (nodup : (Pairs.keys entries).Nodup) {before after : Declarations}
    (unfolds : workspace.Unfolds (workspace.declareEntries scope entries before) keys
      (.ok after)) :
    ∃ same result,
      workspace.Unfolds (workspace.declareEntries scope others before) same (.ok result) ∧
      (∀ key, key ∈ same ↔ key ∈ keys) ∧ after.Reorders result := by
  induction perm generalizing before after keys with
  | nil => exact ⟨keys, after, unfolds, fun _ => Iff.rfl, List.Perm.refl _⟩
  | cons entry _ ih =>
    obtain ⟨schema, declared, first, last, rfl, decoded, own, later⟩ :=
      declareEntries_cons.mp unfolds
    obtain ⟨same, result, again, member, like⟩ := ih (List.nodup_cons.mp nodup).2 later
    refine ⟨first ++ same, result, declareEntries_cons.mpr ⟨schema, declared, first, same, rfl,
      decoded, own, again⟩, fun key => ?_, like⟩
    simp only [List.mem_append, member]
  | swap x y rest =>
    obtain ⟨schema, declared, first, _, rfl, decoded, own, later⟩ :=
      declareEntries_cons.mp unfolds
    obtain ⟨otherSchema, other, second, last, rfl, otherDecoded, otherOwn, onward⟩ :=
      declareEntries_cons.mp later
    have apart : y.1 ≠ x.1 := by
      intro same
      exact (List.nodup_cons.mp nodup).1 (same ▸ List.mem_cons_self)
    obtain ⟨result, again, like⟩ :=
      declareEntries_from (list_list_reorders apart (List.Perm.refl _)) onward
    refine ⟨second ++ (first ++ last), result, declareEntries_cons.mpr ⟨otherSchema, other, second,
      _, rfl, otherDecoded, otherOwn, declareEntries_cons.mpr ⟨schema, declared, first, last, rfl,
      decoded, own, again⟩⟩, fun key => ?_, like⟩
    simp only [List.mem_append]
    tauto
  | trans perm _ ih ihNext =>
    obtain ⟨middle, result, again, member, like⟩ := ih nodup unfolds
    have distinct := (perm.map Prod.fst).nodup_iff.mp nodup
    obtain ⟨same, final, onward, inside, alike⟩ := ihNext distinct again
    exact ⟨same, final, onward, fun key => (inside key).trans (member key), like.trans alike⟩

theorem listTypes_reorders {types other : TypeMap} (reorders : types.Reorders other)
    {declared : Declarations}
    (unfolds : workspace.Unfolds (workspace.listTypes scope types) keys (.ok declared)) :
    ∃ same result, workspace.Unfolds (workspace.listTypes scope other) same (.ok result) ∧
      (∀ key, key ∈ same ↔ key ∈ keys) ∧ declared.Reorders result :=
  declareEntries_reorders reorders types.nodup unfolds

theorem listGroup_reorders {group other : Group} (reorders : group.Reorders other)
    {declared : Declarations}
    (unfolds : workspace.Unfolds (workspace.listGroup group) keys (.ok declared)) :
    ∃ same result, workspace.Unfolds (workspace.listGroup other) same (.ok result) ∧
      (∀ key, key ∈ same ↔ key ∈ keys) ∧ declared.Reorders result := by
  cases reorders with
  | types reorders => exact listTypes_reorders reorders unfolds
  | reference target => exact ⟨keys, declared, unfolds, fun _ => Iff.rfl, List.Perm.refl _⟩

theorem listGroups_cons {title : String} {group : Group} {rest : List (String × Group)}
    {before after : Table Declarations} :
    workspace.Unfolds (workspace.listGroups ((title, group) :: rest) before) keys (.ok after) ↔
      ∃ declared first last, keys = first ++ last ∧
        workspace.Unfolds (workspace.listGroup group) first (.ok declared) ∧
        workspace.Unfolds (workspace.listGroups rest (before.put title declared)) last
          (.ok after) := by
  show workspace.Unfolds (workspace.listGroup group >>= fun declared =>
    workspace.listGroups rest (before.put title declared)) keys (.ok after) ↔ _
  rw [unfolds_bind]
  constructor
  · rintro (⟨declared, first, last, same, own, later⟩ | ⟨failure, failed, _⟩)
    · exact ⟨declared, first, last, same, own, later⟩
    · cases failed
  · rintro ⟨declared, first, last, same, own, later⟩
    exact .inl ⟨declared, first, last, same, own, later⟩

theorem listGroups_reorders {groups others : List (String × Group)}
    (reorders : List.Forall₂ (fun x y => x.1 = y.1 ∧ x.2.Reorders y.2) groups others)
    {a b after : Table Declarations} (before : GroupsReorder a b)
    (unfolds : workspace.Unfolds (workspace.listGroups groups a) keys (.ok after)) :
    ∃ same result, workspace.Unfolds (workspace.listGroups others b) same (.ok result) ∧
      (∀ key, key ∈ same ↔ key ∈ keys) ∧ GroupsReorder after result := by
  induction reorders generalizing a b keys with
  | nil =>
    cases unfolds
    exact ⟨[], b, .done b, fun _ => Iff.rfl, before⟩
  | @cons entry other _ _ like _ ih =>
    obtain ⟨title, group⟩ := entry
    obtain ⟨_, otherGroup⟩ := other
    obtain ⟨rfl, like⟩ := like
    obtain ⟨declared, first, last, rfl, own, later⟩ := listGroups_cons.mp unfolds
    obtain ⟨own, result, again, inside, alike⟩ := listGroup_reorders like own
    obtain ⟨rest, final, onward, member, done⟩ := ih (put_groupsReorder before alike) later
    refine ⟨own ++ rest, final, listGroups_cons.mpr ⟨result, own, rest, rfl, again, onward⟩,
      fun key => ?_, done⟩
    simp only [List.mem_append, inside, member]

theorem listAll_ok {spec : Spec} {generation : Generation} :
    workspace.Unfolds (workspace.listAll spec) keys (.ok generation) ↔
      ∃ first last, keys = first ++ last ∧
        workspace.Unfolds (spec.types.elim (pure ∅) (workspace.listTypes workspace.root)) first
          (.ok generation.types) ∧
        workspace.Unfolds (spec.groups.elim (pure ∅) fun groups =>
          workspace.listGroups groups.entries ∅) last (.ok generation.groups) := by
  unfold listAll
  rw [unfolds_bind]
  constructor
  · rintro (⟨types, first, rest, rfl, own, later⟩ | ⟨failure, failed, _⟩)
    · rcases unfolds_bind.mp later with ⟨groups, last, none, rfl, grouped, done⟩ | ⟨_, failed, _⟩
      · cases done
        exact ⟨first, last, by simp, own, grouped⟩
      · cases failed
    · cases failed
  · rintro ⟨first, last, rfl, own, grouped⟩
    refine .inl ⟨generation.types, first, last, rfl, own, unfolds_bind.mpr (.inl ?_)⟩
    exact ⟨generation.groups, last, [], by simp, grouped, .done _⟩

theorem listAll_reorders {spec other : Spec} (reorders : spec.Reorders other)
    {generation : Generation}
    (unfolds : workspace.Unfolds (workspace.listAll spec) keys (.ok generation)) :
    ∃ same result, workspace.Unfolds (workspace.listAll other) same (.ok result) ∧
      (∀ key, key ∈ same ↔ key ∈ keys) ∧ generation.Reorders result := by
  obtain ⟨first, last, rfl, own, grouped⟩ := listAll_ok.mp unfolds
  obtain ⟨info, types, groups⟩ := spec
  obtain ⟨otherInfo, otherTypes, otherGroups⟩ := other
  obtain ⟨typesReorder, groupsReorder⟩ := reorders
  have fromTypes : ∃ same result, workspace.Unfolds
      (otherTypes.elim (pure ∅) (workspace.listTypes workspace.root)) same (.ok result) ∧
      (∀ key, key ∈ same ↔ key ∈ first) ∧ generation.types.Reorders result := by
    cases typesReorder with
    | some reorders => exact listTypes_reorders reorders own
    | none => exact ⟨first, generation.types, own, fun _ => Iff.rfl, List.Perm.refl _⟩
  have fromGroups : ∃ same result, workspace.Unfolds (otherGroups.elim (pure ∅) fun groups =>
      workspace.listGroups groups.entries ∅) same (.ok result) ∧
      (∀ key, key ∈ same ↔ key ∈ last) ∧ GroupsReorder generation.groups result := by
    cases groupsReorder with
    | some reorders => exact listGroups_reorders reorders (groupsReorder_refl ∅) grouped
    | none =>
      exact ⟨last, generation.groups, grouped, fun _ => Iff.rfl, groupsReorder_refl _⟩
  obtain ⟨first, types, own, inTypes, typesLike⟩ := fromTypes
  obtain ⟨last, groups, grouped, inGroups, groupsLike⟩ := fromGroups
  refine ⟨first ++ last, ⟨types, groups⟩, listAll_ok.mpr ⟨first, last, rfl, own, grouped⟩,
    fun key => ?_, typesLike, groupsLike⟩
  simp only [List.mem_append, inTypes, inGroups]

end Workspace

/-! Types of other documents -/

/-- Two expansions are put in one place, and are different. -/
def Expansion.Clashes (a b : Expansion) : Prop :=
  a.IsSurfaced ∧ b.IsSurfaced ∧ a.target.groupName = b.target.groupName ∧
    a.target.name = b.target.name ∧ a.declaration ≠ b.declaration

theorem not_clash_of_nodup {expansions : List Expansion}
    (nodup : (expansions.map fun expansion =>
      (expansion.target.groupName, expansion.target.name)).Nodup) :
    ∀ a ∈ expansions, ∀ b ∈ expansions, ¬a.Clashes b := by
  rintro a first b second ⟨_, _, title, name, different⟩
  have same : a = b := List.inj_on_of_nodup_map nodup first second (Prod.ext title name)
  exact different (congrArg Expansion.declaration same)

theorem surface_find? {groups : Table Declarations} {expansion : Expansion} {title : String} :
    (surface groups expansion).find? title =
      if expansion.IsSurfaced ∧ title = expansion.target.groupName then
        some (((groups.find? title).getD ∅).put expansion.target.name
          (expansion.declaration.withoutSelf expansion.target.name))
      else groups.find? title := by
  unfold surface Expansion.IsSurfaced
  dsimp only
  by_cases surfaced :
      expansion.target.isRemote ∧ expansion.declaration.name = expansion.target.name
  · by_cases own : title = expansion.target.groupName
    · simp [surfaced, own]
    · simp [surfaced, own]
  · simp [surfaced]

theorem surface_reorders {a b : Table Declarations} (groups : GroupsReorder a b)
    (expansion : Expansion) : GroupsReorder (surface a expansion) (surface b expansion) := by
  intro title
  simp only [surface_find?]
  split
  · exact .some (Table.put_reorders (getD_reorders (groups title)))
  · exact groups title

theorem surface_surface_reorders {a b : Table Declarations} (groups : GroupsReorder a b)
    {first second : Expansion} (apart : ¬first.Clashes second) :
    GroupsReorder (surface (surface a first) second) (surface (surface b second) first) := by
  intro title
  have like := groups title
  simp only [surface_find?]
  by_cases isFirst : first.IsSurfaced ∧ title = first.target.groupName
  · by_cases isSecond : second.IsSurfaced ∧ title = second.target.groupName
    · rw [if_pos isSecond, if_pos isFirst, if_pos isFirst, if_pos isSecond]
      refine .some (Table.put_put_reorders (fun named => ?_) (getD_reorders like))
      have same : first.declaration = second.declaration := by
        by_contra different
        exact apart ⟨isFirst.1, isSecond.1, isFirst.2.symm.trans isSecond.2, named, different⟩
      rw [same, named]
    · rw [if_neg isSecond, if_pos isFirst, if_pos isFirst, if_neg isSecond]
      exact .some (Table.put_reorders (getD_reorders like))
  · by_cases isSecond : second.IsSurfaced ∧ title = second.target.groupName
    · rw [if_pos isSecond, if_neg isFirst, if_neg isFirst, if_pos isSecond]
      exact .some (Table.put_reorders (getD_reorders like))
    · rw [if_neg isSecond, if_neg isFirst, if_neg isFirst, if_neg isSecond]
      exact like

theorem foldl_surface_from (expansions : List Expansion) {a b : Table Declarations}
    (groups : GroupsReorder a b) :
    GroupsReorder (expansions.foldl surface a) (expansions.foldl surface b) := by
  induction expansions generalizing a b with
  | nil => exact groups
  | cons first rest ih => exact ih (surface_reorders groups first)

theorem groupsReorder_trans {a b c : Table Declarations} (first : GroupsReorder a b)
    (second : GroupsReorder b c) : GroupsReorder a c := by
  intro title
  have like := first title
  have alike := second title
  generalize a.find? title = x at like
  generalize b.find? title = y at like alike
  generalize c.find? title = z at alike
  cases like with
  | some like =>
    cases alike with
    | some alike => exact .some (like.trans alike)
  | none =>
    cases alike with
    | none => exact .none

theorem foldl_surface_reorders {expansions others : List Expansion}
    (perm : expansions.Perm others)
    (apart : ∀ a ∈ expansions, ∀ b ∈ expansions, ¬a.Clashes b) (groups : Table Declarations) :
    GroupsReorder (expansions.foldl surface groups) (others.foldl surface groups) := by
  induction perm generalizing groups with
  | nil => exact groupsReorder_refl groups
  | cons first _ ih =>
    refine ih (fun a member b other => ?_) (surface groups first)
    exact apart a (List.mem_cons_of_mem _ member) b (List.mem_cons_of_mem _ other)
  | swap x y rest =>
    have notClash := apart y List.mem_cons_self x (List.mem_cons_of_mem _ List.mem_cons_self)
    exact foldl_surface_from rest (surface_surface_reorders (groupsReorder_refl groups) notClash)
  | trans perm _ ih ihNext =>
    refine groupsReorder_trans (ih apart groups) (ihNext (fun a member b other => ?_) groups)
    exact apart a (perm.mem_iff.mpr member) b (perm.mem_iff.mpr other)

/-- Memos with the same entries surface the same types, unless some of them clash. -/
theorem surfacing_reorders {memo other : Table Expansion} {a b : Generation}
    (memos : memo.Reorders other)
    (apart : ∀ first ∈ memo.values, ∀ second ∈ memo.values, ¬first.Clashes second)
    (reorders : a.Reorders b) : (a.surfacing memo).Reorders (b.surfacing other) where
  types := reorders.types
  groups := groupsReorder_trans (foldl_surface_from memo.values reorders.groups)
    (foldl_surface_reorders (memos.map Prod.snd) apart b.groups)

end Typewright
