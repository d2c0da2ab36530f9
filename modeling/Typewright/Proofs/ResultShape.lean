import Typewright.Proofs.ReferenceChains
import Typewright.Proofs.Surfacing

/-!
The shape of a generation. The types of a document come in the order in which it lists them, without
those that only refer elsewhere; its groups come before the groups of other documents. Every
declaration bears the name under which it stands and does not use that name.
-/
namespace Typewright

/-! Nodes that refer elsewhere -/

namespace Schema

def hasReference (value : Yaml.Value) : Bool :=
  match Fields.read value with
  | .ok fields => fields.reference.isSome
  | .error _ => false

theorem isReference_of_rule {inner : Yaml.Value → Schema → Prop} {fields : Fields}
    {schema : Schema} (rule : Rule inner schema fields) :
    schema.isReference = fields.reference.isSome := by
  cases rule with
  | reference _ given => rw [given]; rfl
  | object _ alone => rw [alone]; rfl
  | enumeration _ alone => rw [alone]; rfl
  | union _ _ alone => rw [alone]; rfl
  | array _ alone => rw [alone]; rfl
  | primitive _ _ _ alone => rw [alone]; rfl

theorem decodeNamed_isReference {name : String} {value : Yaml.Value} {schema : Schema}
    (decoded : decodeNamed name value = .ok schema) :
    schema.isReference = hasReference value := by
  obtain ⟨fields, has, rule⟩ := derives_iff.mp (decodeNamed_iff.mp decoded)
  rw [isReference_of_rule rule, hasReference, Fields.read_iff.mpr (.inl has)]

end Schema

/-- The names of the nodes that do not refer elsewhere, in their order. -/
def ownNames (entries : List (String × Yaml.Value)) : List String :=
  (entries.filter fun entry => !Schema.hasReference entry.2).map Prod.fst

def TypeMap.ownNames (types : TypeMap) : List String := Typewright.ownNames types.entries

namespace Workspace
variable {workspace : Workspace} {scope : Document} {s t : Session} {calls : List Call}

/-! Listed names -/

theorem list_keys {name : String} {schema : Schema} {made : Declaration}
    {declared : Declarations} (absent : name ∉ declared.keys) :
    (list name schema made declared).keys =
      declared.keys ++ if schema.isReference then [] else [name] := by
  unfold list
  split
  · simp
  · rw [Table.keys_put, if_neg absent]

theorem apart_listed {name : String} {rest before listed : List String}
    (distinct : (name :: rest).Nodup) (apart : ∀ other ∈ name :: rest, other ∉ before)
    (only : ∀ other ∈ listed, other = name) : ∀ other ∈ rest, other ∉ before ++ listed := by
  intro other member
  rw [List.mem_append, not_or]
  refine ⟨apart other (List.mem_cons_of_mem _ member), fun isListed => ?_⟩
  cases only other isListed
  exact (List.nodup_cons.mp distinct).1 member

theorem declareEntries_keys {entries : List (String × Yaml.Value)}
    (nodup : (Pairs.keys entries).Nodup) {before after : Declarations}
    (apart : ∀ name ∈ Pairs.keys entries, name ∉ before.keys)
    (follows : workspace.Follows (workspace.declareEntries scope entries before) s calls
      (.done after) t) : after.keys = before.keys ++ ownNames entries := by
  induction entries generalizing before s calls with
  | nil =>
    obtain ⟨_, rfl, _⟩ := follows_done follows
    simp [ownNames]
  | cons entry rest ih =>
    obtain ⟨name, value⟩ := entry
    have absent : name ∉ before.keys := apart name List.mem_cons_self
    obtain ⟨schema, made, _, _, u, decoded, _, later⟩ := follows_declareEntries follows
    have listed : (list name schema made before).keys =
        before.keys ++ if schema.isReference then [] else [name] := list_keys absent
    have onward : ∀ other ∈ Pairs.keys rest,
        other ∉ (list name schema made before).keys := by
      rw [listed]
      refine apart_listed nodup apart fun other isListed => ?_
      split at isListed
      · cases isListed
      · exact List.mem_singleton.mp isListed
    rw [ih nodup.of_cons onward later, listed, List.append_assoc,
      Schema.decodeNamed_isReference decoded]
    cases refers : Schema.hasReference value <;> simp [ownNames, refers]

theorem listTypes_keys {types : TypeMap} {declared : Declarations}
    (follows : workspace.Follows (workspace.listTypes scope types) s calls (.done declared) t) :
    declared.keys = types.ownNames :=
  declareEntries_keys types.nodup (fun _ _ => List.not_mem_nil) follows

theorem listGroup_keys (loaded : s.IsLoaded workspace) {group : Group} {declared : Declarations}
    (follows : workspace.Follows (workspace.listGroup group) s calls (.done declared) t) :
    ∃ origin types, workspace.Stands origin types group ∧ declared.keys = types.ownNames := by
  cases group with
  | types types => exact ⟨workspace.root, types, ⟨rfl, rfl⟩, listTypes_keys follows⟩
  | reference reference =>
    cases follows with
    | @grouping _ _ _ _ _ _ _ _ group read later =>
      have found := (readGroup_reads loaded read).1
      exact ⟨group.1.document, group.2, ⟨group.1, found.symm, rfl⟩, listTypes_keys later⟩

/-! Listed groups -/

theorem listGroups_keys {groups : List (String × Group)} (nodup : (Pairs.keys groups).Nodup)
    {before after : Table Declarations} (apart : ∀ title ∈ Pairs.keys groups, title ∉ before.keys)
    (follows : workspace.Follows (workspace.listGroups groups before) s calls (.done after) t) :
    after.keys = before.keys ++ Pairs.keys groups := by
  induction groups generalizing before s calls with
  | nil =>
    obtain ⟨_, rfl, _⟩ := follows_done follows
    simp [Pairs.keys]
  | cons entry rest ih =>
    obtain ⟨title, group⟩ := entry
    obtain ⟨made, _, _, u, _, _, later⟩ := follows_bind_done follows
    have absent : title ∉ before.keys := apart title List.mem_cons_self
    have listed : (before.put title made).keys = before.keys ++ [title] := by
      rw [Table.keys_put, if_neg absent]
    have onward : ∀ other ∈ Pairs.keys rest, other ∉ (before.put title made).keys := by
      rw [listed]
      exact apart_listed nodup apart fun other => List.mem_singleton.mp
    rw [ih nodup.of_cons onward later, listed]
    simp [Pairs.keys]

theorem listGroups_spares {groups : List (String × Group)} {title : String}
    (absent : title ∉ Pairs.keys groups) {before after : Table Declarations}
    (follows : workspace.Follows (workspace.listGroups groups before) s calls (.done after) t) :
    after.find? title = before.find? title := by
  induction groups generalizing before s calls with
  | nil =>
    obtain ⟨_, rfl, _⟩ := follows_done follows
    rfl
  | cons entry rest ih =>
    obtain ⟨other, inRest⟩ := not_or.mp (List.mem_cons.not.mp absent)
    obtain ⟨made, _, _, u, _, _, later⟩ := follows_bind_done follows
    rw [ih inRest later, Table.find?_put, if_neg other]

theorem listGroups_members {groups : List (String × Group)} (nodup : (Pairs.keys groups).Nodup)
    (loaded : s.IsLoaded workspace) {title : String} {group : Group}
    (member : (title, group) ∈ groups) {before after : Table Declarations}
    (follows : workspace.Follows (workspace.listGroups groups before) s calls (.done after) t) :
    ∃ origin types members, workspace.Stands origin types group ∧
      after.find? title = some members ∧ members.keys = types.ownNames := by
  induction groups generalizing before s calls with
  | nil => cases member
  | cons entry rest ih =>
    obtain ⟨fresh, distinct⟩ := List.nodup_cons.mp nodup
    obtain ⟨made, _, _, u, _, own, later⟩ := follows_bind_done follows
    rcases List.mem_cons.mp member with rfl | inRest
    · obtain ⟨origin, types, stands, keys⟩ := listGroup_keys loaded own
      refine ⟨origin, types, made, stands, ?_, keys⟩
      rw [listGroups_spares fresh later, Table.find?_put, if_pos rfl]
    · exact ih distinct (follows_loaded own loaded) inRest later

/-! Groups of other documents -/

end Workspace

theorem Target.groupName_stem (target : Target) :
    target.groupName = Text.pascalCase (target.document.path.fileStem?.getD "") := by
  unfold groupName Path.fileStem?
  cases named : target.document.path.fileName? <;> simp [named]

theorem surface_titles {groups : Table Declarations} {expansion : Expansion} {title : String}
    (member : title ∈ (surface groups expansion).keys) :
    title ∈ groups.keys ∨ expansion.IsSurfaced ∧ title = expansion.target.groupName := by
  simp only [surface] at member
  split at member
  · next surfaced =>
    rw [Table.keys_put] at member
    split at member
    · exact .inl member
    · rcases List.mem_append.mp member with old | new
      · exact .inl old
      · exact .inr ⟨surfaced, List.mem_singleton.mp new⟩
  · exact .inl member

theorem foldl_surface_titles {expansions : List Expansion} {groups : Table Declarations}
    {title : String} (member : title ∈ (expansions.foldl surface groups).keys) :
    title ∈ groups.keys ∨
      ∃ expansion ∈ expansions, expansion.IsSurfaced ∧ title = expansion.target.groupName := by
  induction expansions generalizing groups with
  | nil => exact .inl member
  | cons first rest ih =>
    rcases ih member with early | ⟨expansion, isIn, surfaced⟩
    · rcases surface_titles early with old | own
      · exact .inl old
      · exact .inr ⟨first, List.mem_cons_self, own⟩
    · exact .inr ⟨expansion, List.mem_cons_of_mem _ isIn, surfaced⟩

namespace Workspace
variable {workspace : Workspace} {scope : Document} {s t : Session} {calls : List Call}

def TellsRemote (workspace : Workspace) (_key : String) (expansion : Expansion) : Prop :=
  expansion.target.isRemote = !workspace.isRoot expansion.target.document

theorem passes_tellsRemote {start : Walk γ} (loaded : s.IsLoaded workspace) :
    workspace.Passes start s workspace.TellsRemote := by
  intro _ chain scope reference rest u v w target schema calls declared asked enters _ _
  obtain ⟨found, _⟩ := readSchema_reads (moment_loaded asked loaded) enters.read
  obtain ⟨value, leads, _⟩ := schemaAt_leads found.symm
  exact leads.isRemote

theorem after_tellsRemote (trace : List Event) (requests : List Request) :
    (workspace.after trace requests).Remembers workspace.TellsRemote := by
  have passes : workspace.PassesAlways trace requests workspace.TellsRemote := by
    refine passesAlways_iff.mpr fun earlier request later _ => ?_
    exact passes_tellsRemote (workspace.after_keeps trace earlier).1
  exact after_remembers passes requests [] (by simp)

/-- The shape of a generation that was made from a spec and ended in `t`. -/
structure Shapes (workspace : Workspace) (spec : Spec) (generation : Generation) (t : Session) :
    Prop where
  types : generation.types.keys = spec.types.elim [] TypeMap.ownNames
  titles : spec.groups.elim [] Table.keys <+: generation.groups.keys
  /-- Further groups are those of other documents, from which types are remembered. -/
  others : ∀ title ∈ generation.groups.keys, title ∉ spec.groups.elim [] Table.keys →
    ∃ expansion ∈ t.memo.values, workspace.isRoot expansion.target.document = false ∧
      title = Text.pascalCase (expansion.target.document.path.fileStem?.getD "")
  members : ∀ groups title group, spec.groups = some groups → (title, group) ∈ groups.entries →
    ∃ origin types members, workspace.Stands origin types group ∧
      generation.groups.find? title = some members ∧ types.ownNames <+: members.keys
  named : ∀ name declaration, generation.Holds name declaration →
    declaration.name = name ∧ name ∉ declaration.references

theorem brings_named {walk : Walk α} {value : α} {name : String} {declaration : Declaration}
    (brings : workspace.Brings walk s value t name declaration) :
    declaration.name = name ∧ name ∉ declaration.references := by
  obtain ⟨scope, schema, declared, notReference, rfl, declares⟩ := brings
  cases declares with
  | intro _ own _ =>
    have bears : declared.name = name := declare_name own notReference
    exact ⟨bears, by simp [Declaration.withoutSelf]⟩

theorem surfacing_named {generation : Generation} {memo : Table Expansion}
    (listed : ∀ name declaration, generation.Holds name declaration →
      declaration.name = name ∧ name ∉ declaration.references)
    {name : String} {declaration : Declaration}
    (holds : (generation.surfacing memo).Holds name declaration) :
    declaration.name = name ∧ name ∉ declaration.references := by
  rcases surfacing_holds holds with early | ⟨key, expansion, _, surfaced, rfl, rfl⟩
  · exact listed name declaration early
  · exact ⟨surfaced.2, by simp [Declaration.withoutSelf]⟩

theorem listAll_shapes {spec : Spec} {listed : Generation} (loaded : s.IsLoaded workspace)
    (remote : t.Remembers workspace.TellsRemote)
    (follows : workspace.Follows (workspace.listAll spec) s calls (.done listed) t) :
    workspace.Shapes spec (listed.surfacing t.memo) t := by
  have extended : GroupsExtend listed.groups (listed.surfacing t.memo).groups :=
    foldl_surface_extends t.memo.values listed.groups
  have named (name : String) (declaration : Declaration)
      (holds : (listed.surfacing t.memo).Holds name declaration) :
      declaration.name = name ∧ name ∉ declaration.references :=
    surfacing_named (fun _ _ early => brings_named (listAll_brings follows early)) holds
  obtain ⟨types, _, _, u, _, own, later⟩ := follows_bind_done follows
  obtain ⟨groups, _, _, v, _, grouped, done⟩ := follows_bind_done later
  obtain ⟨_, rfl, _⟩ := follows_done done
  have titles : groups.keys = spec.groups.elim [] Table.keys := by
    cases isGroups : spec.groups with
    | none =>
      rw [isGroups] at grouped
      obtain ⟨_, rfl, _⟩ := follows_done grouped
      rfl
    | some table =>
      rw [isGroups] at grouped
      exact listGroups_keys table.nodup (fun _ _ => List.not_mem_nil) grouped
  refine ⟨?types, titles ▸ extended.titles, ?others, ?members, named⟩
  case types =>
    cases isTypes : spec.types with
    | none =>
      rw [isTypes] at own
      obtain ⟨_, rfl, _⟩ := follows_done own
      rfl
    | some map =>
      rw [isTypes] at own
      exact listTypes_keys own
  case others =>
    intro title member other
    rcases foldl_surface_titles member with listed | ⟨expansion, isIn, surfaced, rfl⟩
    · exact absurd (titles ▸ listed) other
    · obtain ⟨⟨key, _⟩, inside, rfl⟩ := List.mem_map.mp isIn
      have told := remote _ _ (Table.mem_entries_iff.mp inside)
      have isRemote := surfaced.1
      rw [told] at isRemote
      exact ⟨_, isIn, by simpa using isRemote, Target.groupName_stem _⟩
  case members =>
    intro table title group isGroups member
    rw [isGroups] at grouped
    obtain ⟨origin, types, members, stands, found, keys⟩ :=
      listGroups_members table.nodup (follows_loaded own loaded) member grouped
    obtain ⟨more, foundMore, longer⟩ := extended.names title members found
    exact ⟨origin, types, more, stands, foundMore, keys ▸ longer⟩

/-- Whatever was asked for before, a request for a document of types that succeeds has this
shape. -/
theorem generation_shaped (workspace : Workspace) (trace : List Event) (requests : List Request)
    {spec : Spec} {generation : Generation} {t : Session}
    (run : (workspace.declareAll spec).run (workspace.after trace requests) =
      (.ok generation, t)) : workspace.Shapes spec generation t := by
  obtain ⟨loaded, _⟩ := workspace.after_keeps trace requests
  obtain ⟨r, u, runs, same⟩ := declareAll_runs spec loaded
  cases r with
  | error failure => cases same.symm.trans run
  | ok listed =>
    cases same.symm.trans run
    have remote := (runs_remembers (passes_tellsRemote loaded) runs loaded (.outer (.here _ _))
      (after_tellsRemote trace requests)).1
    obtain ⟨calls, follows⟩ := follows_of_runs runs rfl
    exact listAll_shapes loaded remote follows

end Workspace

namespace MixedGroups
open SameName (mapping single object info renderer tokens)

/-! A type that leads back to itself, another name for it, and a group of the same title as one that
comes from another document. -/

def root : Yaml.Value :=
  mapping [info,
    ("types", mapping [
      ("Alias", single "$ref" "#/types/Node"),
      ("Node", object [("next", single "$ref" "#/types/Node"),
        ("id", single "$ref" "common.yaml#/types/Id"),
        ("unit", single "$ref" "units.yaml#/types/Unit")])]),
    ("groupedTypes", mapping [("Common", mapping [
      ("Other", single "$ref" "#/types/Node"),
      ("Local", object [])])])]

def library : Library where
  documents := [
    (Path.ofString "/common.yaml", .ok (mapping [("types", mapping [("Id", object [])])])),
    (Path.ofString "/units.yaml", .ok (mapping [("types", mapping [("Unit", object [])])]))]

def workspace : Workspace := ⟨⟨Path.ofString "/spec.yaml", root⟩, library, tokens, renderer⟩

def spec : Spec := (Spec.decode root).toOption.getD ⟨⟨"", ""⟩, none, none⟩

def run : Except Failure Generation × Session :=
  (workspace.declareAll spec).run (workspace.after [] [])

def places (generation : Generation) : List (String × List (String × List String)) :=
  (("", generation.types) :: generation.groups.entries).map fun (title, types) =>
    (title, types.entries.map fun (name, declaration) => (name, declaration.references.toList))

theorem mixed_groups_shaped : ∃ generation t, run = (.ok generation, t) ∧
    workspace.Shapes spec generation t ∧
    places generation = [("", [("Node", ["Id", "Unit"])]),
      ("Common", [("Local", []), ("Id", [])]), ("Units", [("Unit", [])])] := by
  have placed : run.1.toOption.map places = some [("", [("Node", ["Id", "Unit"])]),
      ("Common", [("Local", []), ("Id", [])]), ("Units", [("Unit", [])])] := by
    decide +kernel
  rcases done : run with ⟨failure | generation, t⟩
  · rw [done] at placed
    cases placed
  · rw [done] at placed
    exact ⟨generation, t, rfl, workspace.generation_shaped [] [] done, Option.some.inj placed⟩

end MixedGroups

end Typewright
