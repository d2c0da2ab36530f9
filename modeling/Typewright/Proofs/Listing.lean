import Typewright.Proofs.History

/-!
Where the declarations of a generation come from. A listed type is declared on the way, with
nothing around it; the others were expanded behind references.
-/
namespace Typewright

def Generation.Holds (generation : Generation) (name : String) (declaration : Declaration) :
    Prop :=
  (name, declaration) ∈ generation.types.entries ∨
    ∃ group ∈ generation.groups.entries, (name, declaration) ∈ group.2.entries

namespace Workspace
variable {workspace : Workspace} {scope : Document} {name : String} {schema : Schema}
variable {declared : Declaration} {s t u : Session}

/-- On its way from `s` to its value in `t` the walk declares the schema under this name. -/
inductive Declares (workspace : Workspace) (start : Walk α) (s : Session) (value : α)
    (t : Session) (scope : Document) (name : String) (schema : Schema)
    (declared : Declaration) : Prop where
  | intro {next : Declaration → Walk α} {u v : Session} {first calls last : List Call}
    (before : workspace.Follows start s first (workspace.declare scope name schema >>= next) u)
    (own : workspace.Follows (workspace.declare scope name schema) u calls (.done declared) v)
    (after : workspace.Follows (next declared) v last (.done value) t)

theorem declares_later {start middle : Walk α} {value : α} {calls : List Call}
    (before : workspace.Follows start s calls middle u)
    (declares : workspace.Declares middle u value t scope name schema declared) :
    workspace.Declares start s value t scope name schema declared := by
  obtain ⟨first, own, after⟩ := declares
  exact ⟨follows_trans before first, own, after⟩

theorem declares_first {walk : Walk α} {next : α → Walk β} {value : α} {result : β}
    {calls : List Call} (declares : workspace.Declares walk s value u scope name schema declared)
    (later : workspace.Follows (next value) u calls (.done result) t) :
    workspace.Declares (walk >>= next) s result t scope name schema declared := by
  cases declares with
  | @intro inner v w first _ last before own after =>
    have around : workspace.Follows (walk >>= next) s first
        (workspace.declare scope name schema >>= fun made => inner made >>= next) v := by
      rw [← Walk.bind_assoc]
      exact follows_bind before
    have onward : workspace.Follows (inner declared >>= next) w last (next value) u :=
      follows_bind after
    exact ⟨around, own, follows_trans onward later⟩

def Brings (workspace : Workspace) (start : Walk α) (s : Session) (value : α) (t : Session)
    (name : String) (declaration : Declaration) : Prop :=
  ∃ scope schema declared, schema.isReference = false ∧
    declaration = declared.withoutSelf name ∧
    workspace.Declares start s value t scope name schema declared

variable {declaration : Declaration}

theorem brings_later {start middle : Walk α} {value : α} {calls : List Call}
    (before : workspace.Follows start s calls middle u)
    (brings : workspace.Brings middle u value t name declaration) :
    workspace.Brings start s value t name declaration := by
  obtain ⟨scope, schema, declared, notReference, same, declares⟩ := brings
  exact ⟨scope, schema, declared, notReference, same, declares_later before declares⟩

theorem brings_first {walk : Walk α} {next : α → Walk β} {value : α} {result : β}
    {calls : List Call} (brings : workspace.Brings walk s value u name declaration)
    (later : workspace.Follows (next value) u calls (.done result) t) :
    workspace.Brings (walk >>= next) s result t name declaration := by
  obtain ⟨scope, schema, declared, notReference, same, declares⟩ := brings
  exact ⟨scope, schema, declared, notReference, same, declares_first declares later⟩

theorem follows_declareEntries {value : Yaml.Value} {rest : List (String × Yaml.Value)}
    {before after : Declarations} {calls : List Call}
    (follows : workspace.Follows (workspace.declareEntries scope ((name, value) :: rest) before) s
      calls (.done after) t) :
    ∃ schema made first second u, Schema.decodeNamed name value = .ok schema ∧
      workspace.Follows (workspace.declare scope name schema) s first (.done made) u ∧
      workspace.Follows (workspace.declareEntries scope rest (list name schema made before)) u
        second (.done after) t := by
  obtain ⟨schema, _, _, v, _, decodes, onward⟩ := follows_bind_done follows
  obtain ⟨decoded, rfl⟩ := follows_ofExcept decodes
  rw [declareEntries_decoded decoded] at follows
  obtain ⟨made, first, second, u, _, own, later⟩ := follows_bind_done follows
  exact ⟨schema, made, first, second, u, decoded, own, later⟩

theorem declareEntries_brings {entries : List (String × Yaml.Value)}
    {before after : Declarations} {calls : List Call}
    (follows : workspace.Follows (workspace.declareEntries scope entries before) s calls
      (.done after) t) (member : (name, declaration) ∈ after.entries) :
    (name, declaration) ∈ before.entries ∨
      workspace.Brings (workspace.declareEntries scope entries before) s after t name
        declaration := by
  induction entries generalizing before s calls with
  | nil =>
    obtain ⟨_, rfl, _⟩ := follows_done follows
    exact .inl member
  | cons entry rest ih =>
    obtain ⟨listed, value⟩ := entry
    obtain ⟨schema, made, first, second, u, decoded, own, later⟩ := follows_declareEntries follows
    rw [declareEntries_decoded decoded]
    rcases ih later with early | brings
    · unfold list at early
      split at early
      · exact .inl early
      · next notReference =>
        rcases Pairs.mem_put early with same | old
        · cases same
          have plain : schema.isReference = false := by simpa using notReference
          exact .inr ⟨scope, schema, made, plain, rfl, .here _ s, own, later⟩
        · exact .inl old
    · exact .inr (brings_later (follows_bind own) brings)

theorem listTypes_brings {types : TypeMap} {after : Declarations} {calls : List Call}
    (follows : workspace.Follows (workspace.listTypes scope types) s calls (.done after) t)
    (member : (name, declaration) ∈ after.entries) :
    workspace.Brings (workspace.listTypes scope types) s after t name declaration :=
  (declareEntries_brings follows member).resolve_left List.not_mem_nil

theorem listGroup_brings {group : Group} {after : Declarations} {calls : List Call}
    (follows : workspace.Follows (workspace.listGroup group) s calls (.done after) t)
    (member : (name, declaration) ∈ after.entries) :
    workspace.Brings (workspace.listGroup group) s after t name declaration := by
  cases group with
  | types types => exact listTypes_brings follows member
  | reference reference =>
    cases follows with
    | grouping read later =>
      exact brings_later (.grouping read (.here _ _)) (listTypes_brings later member)

theorem listGroups_brings {groups : List (String × Group)} {before after : Table Declarations}
    {calls : List Call}
    (follows : workspace.Follows (workspace.listGroups groups before) s calls (.done after) t)
    {types : String × Declarations} (listed : types ∈ after.entries)
    (member : (name, declaration) ∈ types.2.entries) :
    types ∈ before.entries ∨
      workspace.Brings (workspace.listGroups groups before) s after t name declaration := by
  induction groups generalizing before s calls with
  | nil =>
    obtain ⟨_, rfl, _⟩ := follows_done follows
    exact .inl listed
  | cons entry rest ih =>
    obtain ⟨title, group⟩ := entry
    obtain ⟨made, first, second, u, _, own, later⟩ := follows_bind_done follows
    rcases ih later with early | brings
    · rcases Pairs.mem_put early with same | old
      · cases same
        exact .inr (brings_first (listGroup_brings own member) later)
      · exact .inl old
    · exact .inr (brings_later (follows_bind own) brings)

theorem listAll_brings {spec : Spec} {generation : Generation} {calls : List Call}
    (follows : workspace.Follows (workspace.listAll spec) s calls (.done generation) t)
    (holds : generation.Holds name declaration) :
    workspace.Brings (workspace.listAll spec) s generation t name declaration := by
  obtain ⟨types, first, others, u, _, own, later⟩ := follows_bind_done follows
  obtain ⟨groups, second, last, v, _, grouped, done⟩ := follows_bind_done later
  obtain ⟨_, rfl, _⟩ := follows_done done
  rcases holds with listed | ⟨group, listed, member⟩
  · cases isTypes : spec.types with
    | none =>
      rw [isTypes] at own
      obtain ⟨_, rfl, _⟩ := follows_done own
      cases listed
    | some map =>
      refine brings_first ?_ later
      rw [isTypes] at own ⊢
      exact listTypes_brings own listed
  · have brings : workspace.Brings (spec.groups.elim (pure ∅) fun groups =>
        workspace.listGroups groups.entries ∅) u groups v name declaration := by
      cases isGroups : spec.groups with
      | none =>
        rw [isGroups] at grouped
        obtain ⟨_, rfl, _⟩ := follows_done grouped
        cases listed
      | some table =>
        rw [isGroups] at grouped
        exact (listGroups_brings grouped listed member).resolve_left List.not_mem_nil
    have rest : workspace.Brings (spec.groups.elim (pure ∅) (fun groups =>
        workspace.listGroups groups.entries ∅) >>= fun groups => pure ⟨types, groups⟩) u
        (⟨types, groups⟩ : Generation) t name declaration := brings_first brings done
    exact brings_later (follows_bind own) rest

end Workspace

def Expansion.IsSurfaced (expansion : Expansion) : Prop :=
  expansion.target.isRemote ∧ expansion.declaration.name = expansion.target.name

instance (expansion : Expansion) : Decidable expansion.IsSurfaced :=
  inferInstanceAs (Decidable (expansion.target.isRemote ∧ _))

theorem surface_entries {groups : Table Declarations} {expansion : Expansion}
    {types : String × Declarations} {entry : String × Declaration}
    (listed : types ∈ (surface groups expansion).entries) (member : entry ∈ types.2.entries) :
    (∃ others ∈ groups.entries, entry ∈ others.2.entries) ∨
      expansion.IsSurfaced ∧
        entry =
          (expansion.target.name, expansion.declaration.withoutSelf expansion.target.name) := by
  simp only [surface] at listed
  split at listed
  · next surfaced =>
    rcases Pairs.mem_put listed with rfl | old
    · rcases Pairs.mem_put member with same | early
      · exact .inr ⟨surfaced, same⟩
      · cases known : groups.find? expansion.target.groupName with
        | none =>
          simp only [known, Option.getD_none] at early
          cases early
        | some others =>
          simp only [known, Option.getD_some] at early
          exact .inl ⟨_, Table.mem_entries_iff.mpr known, early⟩
    · exact .inl ⟨types, old, member⟩
  · exact .inl ⟨types, listed, member⟩

theorem surfaceAll_entries {memo : Table Expansion} {groups : Table Declarations}
    {types : String × Declarations} {entry : String × Declaration}
    (listed : types ∈ (surfaceAll memo groups).entries) (member : entry ∈ types.2.entries) :
    (∃ others ∈ groups.entries, entry ∈ others.2.entries) ∨
      ∃ expansion ∈ memo.values, expansion.IsSurfaced ∧
        entry =
          (expansion.target.name, expansion.declaration.withoutSelf expansion.target.name) := by
  unfold surfaceAll at listed
  generalize memo.values = expansions at listed ⊢
  induction expansions generalizing groups with
  | nil => exact .inl ⟨types, listed, member⟩
  | cons first rest ih =>
    rcases ih listed with ⟨others, before, inside⟩ | ⟨expansion, later, surfaced⟩
    · rcases surface_entries before inside with old | surfaced
      · exact .inl old
      · exact .inr ⟨first, List.mem_cons_self, surfaced⟩
    · exact .inr ⟨expansion, List.mem_cons_of_mem first later, surfaced⟩

/-- What a generation holds was listed, or is remembered from a reference to another document. -/
theorem surfacing_holds {generation : Generation} {memo : Table Expansion} {name : String}
    {declaration : Declaration} (holds : (generation.surfacing memo).Holds name declaration) :
    generation.Holds name declaration ∨ ∃ key expansion, memo.find? key = some expansion ∧
      expansion.IsSurfaced ∧ name = expansion.target.name ∧
      declaration = expansion.declaration.withoutSelf name := by
  rcases holds with listed | ⟨types, listed, member⟩
  · exact .inl (.inl listed)
  · rcases surfaceAll_entries listed member with
      ⟨others, old, inside⟩ | ⟨expansion, known, surfaced⟩
    · exact .inl (.inr ⟨others, old, inside⟩)
    · obtain ⟨⟨key, _⟩, inside, rfl⟩ := List.mem_map.mp known
      obtain ⟨isSurfaced, same⟩ := surfaced
      cases same
      exact .inr ⟨key, _, Table.mem_entries_iff.mp inside, isSurfaced, rfl, rfl⟩

end Typewright
