import Typewright.Proofs.Drafts
import Typewright.Proofs.UsedNames

/-!
What the names in generated files stand for. A file declares a name itself or imports it from the
first file that declares it; names alone decide, so two types of one name are told apart only by
where they are declared.
-/
namespace Typewright

namespace Layout
variable {drafts : List Draft} {draft : Draft} {name : String}

/-- In the file of a draft the name stands for this declaration: the file's own, or the one that
is imported from the first file that declares the name. -/
inductive Binds (drafts : List Draft) (draft : Draft) (name : String)
    (declaration : Declaration) : Prop where
  | own (member : (name, declaration) ∈ draft.members)
  | imported (other : Draft) (foreign : name ∉ draft.names)
    (first : drafts.find? (fun draft => draft.names.contains name) = some other)
    (member : (name, declaration) ∈ other.members)
    (imports : ⟨name, draft.module.directory.specifier other.module⟩ ∈ draft.imports drafts)

theorem mem_foldl_erase {names : List String} {set : NameSet} :
    name ∈ names.foldl NameSet.erase set ↔ name ∈ set ∧ name ∉ names := by
  induction names generalizing set with
  | nil => simp
  | cons first rest ih => simp [ih, and_assoc]

theorem mem_foldl_references {members : List (String × Declaration)} {set : NameSet} :
    name ∈ members.foldl (fun names member => names ∪ member.2.references) set ↔
      name ∈ set ∨ ∃ member ∈ members, name ∈ member.2.references := by
  induction members generalizing set with
  | nil => simp
  | cons first rest ih => simp [ih, or_assoc]

theorem mem_foreign : name ∈ draft.foreign ↔
    (∃ member ∈ draft.members, name ∈ member.2.references) ∧ name ∉ draft.names := by
  simp [Draft.foreign, mem_foldl_erase, mem_foldl_references]

theorem exists_of_mem_names (member : name ∈ draft.names) :
    ∃ declaration, (name, declaration) ∈ draft.members := by
  obtain ⟨⟨_, declaration⟩, inside, rfl⟩ := List.mem_map.mp member
  exact ⟨declaration, inside⟩

theorem exists_binds {member : String × Declaration} (isIn : member ∈ draft.members)
    (used : name ∈ member.2.references ∨ name = member.1)
    (declared : ∃ other ∈ drafts, name ∈ other.names) :
    ∃ declaration, Binds drafts draft name declaration := by
  by_cases here : name ∈ draft.names
  · obtain ⟨declaration, own⟩ := exists_of_mem_names here
    exact ⟨declaration, .own own⟩
  · have used : name ∈ member.2.references := by
      refine used.resolve_right ?_
      rintro rfl
      exact here (List.mem_map_of_mem isIn)
    have foreign := mem_foreign.mpr ⟨⟨member, isIn, used⟩, here⟩
    cases first : drafts.find? fun draft => draft.names.contains name with
    | none =>
      obtain ⟨other, inside, declares⟩ := declared
      have absent := List.find?_eq_none.mp first other inside
      exact absurd (List.contains_iff_mem.mpr declares) absent
    | some other =>
      have declares : name ∈ other.names := by simpa using List.find?_some first
      obtain ⟨declaration, inside⟩ := exists_of_mem_names declares
      refine ⟨declaration, .imported other here first inside ?_⟩
      refine List.mem_filterMap.mpr ⟨name, foreign, ?_⟩
      simp only [moduleOf?, first, Option.map_some]

theorem declared_of_binds {declaration : Declaration} (isIn : draft ∈ drafts)
    (binds : Binds drafts draft name declaration) :
    ∃ other ∈ drafts, (name, declaration) ∈ other.members := by
  cases binds with
  | own member => exact ⟨draft, isIn, member⟩
  | imported other _ first member _ => exact ⟨other, List.mem_of_find?_eq_some first, member⟩

end Layout

namespace Placement
open Layout
variable {placement : Placement} {draft : Draft}

theorem holds_of_draft {generation : Generation} {name : String} {declaration : Declaration}
    (isIn : draft ∈ placement.drafts generation) (inside : (name, declaration) ∈ draft.members) :
    generation.Holds name declaration ∧ declaration.content.isEmpty = false := by
  have held {types : Declarations} (isWritten : (name, declaration) ∈ written types) :
      (name, declaration) ∈ types.entries ∧ declaration.content.isEmpty = false := by
    obtain ⟨listed, text⟩ := List.mem_filter.mp isWritten
    exact ⟨listed, by simpa using text⟩
  cases drafted_of_drafts isIn with
  | types =>
    obtain ⟨listed, text⟩ := held inside
    exact ⟨.inl listed, text⟩
  | type isWritten =>
    obtain ⟨listed, text⟩ := held (List.mem_singleton.mp inside ▸ isWritten)
    exact ⟨.inl listed, text⟩
  | group grouped =>
    obtain ⟨listed, text⟩ := held inside
    exact ⟨.inr ⟨_, grouped, listed⟩, text⟩
  | groupType grouped isWritten =>
    obtain ⟨listed, text⟩ := held (List.mem_singleton.mp inside ▸ isWritten)
    exact ⟨.inr ⟨_, grouped, listed⟩, text⟩

end Placement

namespace Workspace
variable {workspace : Workspace} {scope : Document} {s t : Session}

def Names (workspace : Workspace) (sites : List (Path × String)) (key : String)
    (expansion : Expansion) : Prop :=
  ∃ scope reference schema, key = workspace.key scope reference ∧
    Lists workspace.Serves sites scope reference ∧
    workspace.schemaAt scope reference = .ok (expansion.target, schema) ∧
    (schema.isReference = false → expansion.declaration.name = expansion.target.name)

theorem asks_of_bind {allowed : Document → String → Prop} {walk : Walk α} {next : α → Walk β}
    (asks : workspace.Asks allowed (walk >>= next)) : workspace.Asks allowed walk := by
  induction walk with
  | done value => trivial
  | failed failure => trivial
  | noting event rest ih => exact ih asks
  | asking scope reference rest ih => exact ⟨asks.1, fun answer => ih answer (asks.2 answer)⟩
  | grouping scope reference rest ih => exact fun group found => ih group (asks group found)

theorem follows_allowed {allowed : Document → String → Prop} {walk left : Walk α}
    {calls : List Call} (follows : workspace.Follows walk s calls left t)
    (loaded : s.IsLoaded workspace) (asks : workspace.Asks allowed walk) :
    ∀ call ∈ calls, allowed call.scope call.reference := by
  induction follows with
  | here walk s => simp
  | noting later ih => exact ih loaded asks
  | grouping read later ih =>
    obtain ⟨found, reads⟩ := readGroup_reads loaded read
    exact ih reads.loaded (asks _ found.symm)
  | asking answers later ih =>
    exact List.forall_mem_cons.mpr
      ⟨asks.1, ih (answers_keeps loaded answers).1 (asks.2 _)⟩

theorem passes_names {sites : List (Path × String)} {start : Walk γ}
    (covering : workspace.Covering workspace.Serves sites) (loaded : s.IsLoaded workspace)
    (closed : s.opened = []) (asks : workspace.Asks (Lists workspace.Serves sites) start) :
    workspace.Passes start s (workspace.Names sites) := by
  intro α chain scope reference rest t u v target schema calls declared moment enters follows _
  have chained := moment_chained covering loaded closed asks moment
  obtain ⟨found, _⟩ := readSchema_reads chained.loaded enters.read
  refine ⟨scope, reference, schema, rfl, chained.asks.1, found.symm, fun notReference => ?_⟩
  have named : declared.name = target.name := declare_name follows notReference
  simpa [Target.finish, notReference, Declaration.referring, Declaration.name] using named

theorem answer_name {sites : List (Path × String)} {chain : List (Document × String)}
    {walk : Walk α} {call : Call} {target : Target}
    {schema : Schema} (apart : workspace.KeysApart sites)
    (chained : workspace.Chained workspace.Serves sites chain walk s)
    (listed : Lists workspace.Serves sites call.scope call.reference)
    (answered : call.Answered workspace (workspace.Names sites) s.opened)
    (found : workspace.schemaAt call.scope call.reference = .ok (target, schema))
    (notReference : schema.isReference = false) : call.answer.name = target.name := by
  rcases answered with ⟨expansion, names, same⟩ | ⟨name, isOpen, same⟩
  · obtain ⟨scope, reference, other, key, known, leads, named⟩ := names
    obtain ⟨rfl, rfl⟩ := same_of_key apart listed known key
    cases found.symm.trans leads
    rw [same]
    exact named notReference
  · obtain ⟨before, after, split, _⟩ := List.lookup_eq_some_iff.mp isOpen
    have member : (workspace.key call.scope call.reference, name) ∈ s.opened := by simp [split]
    obtain ⟨around, inside, other, otherSchema, pair, leads⟩ := chained.named _ member
    obtain ⟨document, text⟩ := same_of_key apart listed (chained.listed around inside)
      (congrArg Prod.fst pair)
    rw [← document, ← text] at leads
    cases found.symm.trans leads
    rw [same]
    exact congrArg Prod.snd pair

theorem generated_names {trace : List Event} {spec : Spec} {name : String} {schema : Schema}
    {calls : List Call} {declaration : Declaration}
    (decoded : Spec.decode workspace.root.body = .ok spec)
    (apart : workspace.KeysApart workspace.sites)
    (generated : Generated workspace (workspace.Begins trace [.all spec]) scope name schema calls
      declaration) {call : Call} (member : call ∈ calls) {target : Target} {targetSchema : Schema}
    (found : workspace.schemaAt call.scope call.reference = .ok (target, targetSchema))
    (notReference : targetSchema.isReference = false) : call.answer.name = target.name := by
  obtain ⟨s, declared, t, ⟨earlier, request, later, split, begins⟩, _, follows, _⟩ := generated
  have only : earlier = [] ∧ request = .all spec := by
    cases earlier with
    | nil => exact ⟨rfl, (List.cons.inj split).1.symm⟩
    | cons first rest => simp at split
  obtain ⟨rfl, rfl⟩ := only
  obtain ⟨α, chain, next, moment⟩ := begins
  obtain ⟨loaded, closed⟩ := workspace.after_keeps trace []
  have covering : workspace.Covering workspace.Serves workspace.sites := by
    simpa using workspace.covering_served []
  have asks : workspace.Asks (Lists workspace.Serves workspace.sites) (workspace.listAll spec) :=
    listAll_asks covering fun value member reference written =>
      serves_written (.inl rfl) (Spec.decode_references decoded member written)
  have passes : workspace.Passes (workspace.listAll spec) (workspace.after trace [])
      (workspace.Names workspace.sites) := passes_names covering loaded closed asks
  have chained := moment_chained covering loaded closed asks moment
  have known := moment_remembers passes moment loaded fun key expansion found => nomatch found
  have whole : workspace.Follows (workspace.declare scope name schema >>= next) s calls
      (.done declared >>= next) t := follows_bind follows
  have answered := (follows_remembers passes whole chained.loaded moment known).2 call member
  have listed := follows_allowed follows chained.loaded (asks_of_bind chained.asks) call member
  exact answer_name apart chained listed answered found notReference

end Workspace

open Layout

/-- How a file binds the name that is written for a reference. The name is that of the target, if
the target is no reference itself. As soon as some file declares the name it is bound, and it is
bound to a declaration of the target if every declaration of this name comes from the target. -/
structure BindsByName (workspace : Workspace) (begun : Walk Declaration → Session → Prop)
    (drafts : List Draft) (draft : Draft) (call : Call) (target : Target) (schema : Schema) :
    Prop where
  name : schema.isReference = false → workspace.KeysApart workspace.sites →
    call.answer.name = target.name
  bound : (∃ other ∈ drafts, call.answer.name ∈ other.names) →
    ∃ declaration, Binds drafts draft call.answer.name declaration
  own : (∃ other ∈ drafts, call.answer.name ∈ other.names) →
    (∀ other ∈ drafts, ∀ declaration, (call.answer.name, declaration) ∈ other.members →
      ∃ calls, Generated workspace begun target.document target.name schema calls declaration) →
    ∃ declaration calls, Binds drafts draft call.answer.name declaration ∧
      Generated workspace begun target.document target.name schema calls declaration

def Outcome.BindsAll (outcome : Outcome) (workspace : Workspace) : Prop :=
  let begun := workspace.Begins [.load workspace.root.path] [.all outcome.spec]
  ∀ (placement : Placement), ∀ draft ∈ placement.drafts outcome.generation,
    ∀ name declaration, (name, declaration) ∈ draft.members →
    (∃ scope schema calls, Generated workspace begun scope name schema calls declaration) ∧
      ∀ scope schema calls, Generated workspace begun scope name schema calls declaration →
        ∀ call ∈ calls, ∀ target targetSchema,
          workspace.schemaAt call.scope call.reference = .ok (target, targetSchema) →
          BindsByName workspace begun (placement.drafts outcome.generation) draft call target
            targetSchema

/-- What a file declares was generated from a schema: what is only pending has no text. -/
theorem generated_of_draft {workspace : Workspace} {placement : Placement} {spec : Spec}
    {generation : Generation} {t : Session} {draft : Draft} {member : String × Declaration}
    (run : (workspace.declareAll spec).run { trace := [.load workspace.root.path] } =
      (.ok generation, t)) (isIn : draft ∈ placement.drafts generation)
    (inside : member ∈ draft.members) :
    ∃ scope schema calls, Generated workspace
      (workspace.Begins [.load workspace.root.path] [.all spec]) scope member.1 schema calls
      member.2 := by
  obtain ⟨holds, text⟩ := Placement.holds_of_draft isIn inside
  have fresh : workspace.after [.load workspace.root.path] [] =
      { trace := [.load workspace.root.path] } := rfl
  rw [← fresh] at run
  rcases Workspace.holds_generated run holds with pending | made
  · rw [pending] at text
    simp [Declaration.pending] at text
  · exact made

/-- In every run over a document, names alone decide what the references in the files stand for. -/
theorem references_bind_by_name {library : Library} {tokens : TokenTable} {renderer : Renderer}
    {path : Path} {outcome : Outcome}
    (run : ((declareDocument library tokens renderer path).run {}).1 = .ok outcome) :
    ∃ body, library.load path = .ok body ∧
      outcome.BindsAll ⟨⟨path, body⟩, library, tokens, renderer⟩ := by
  obtain ⟨body, loaded, decoded, declares⟩ := Workspace.declareDocument_ok (Prod.ext run rfl)
  refine ⟨body, loaded, ?_⟩
  intro placement draft isIn name declaration member
  refine ⟨generated_of_draft declares isIn member, ?_⟩
  intro scope schema calls generated call inside target targetSchema found
  have bound : (∃ other ∈ placement.drafts outcome.generation, call.answer.name ∈ other.names) →
      ∃ declaration, Binds (placement.drafts outcome.generation) draft call.answer.name
        declaration :=
    exists_binds member (Workspace.generated_uses generated inside)
  refine ⟨fun notReference apart => ?_, bound, fun declared own => ?_⟩
  · exact Workspace.generated_names decoded apart generated inside found notReference
  · obtain ⟨declaration, binds⟩ := bound declared
    obtain ⟨other, otherIn, binding⟩ := declared_of_binds isIn binds
    obtain ⟨calls, made⟩ := own other otherIn declaration binding
    exact ⟨declaration, calls, binds, made⟩

namespace SameName

/-! A document with a type `Id`, and a type that refers to the `Id` of another document. -/

def mapping (entries : List (String × Yaml.Value)) : Yaml.Value :=
  .mapping (entries.map fun (key, value) => (.string key, value))

def single (key text : String) : Yaml.Value := mapping [(key, .string text)]

def object (properties : List (String × Yaml.Value)) : Yaml.Value :=
  mapping [("type", .string "object"), ("properties", mapping properties)]

def info : String × Yaml.Value :=
  ("info", mapping [("version", .string "1"), ("title", .string "t")])

def library : Library where
  documents := [
    (Path.ofString "/spec.yaml", .ok (mapping [info, ("types", mapping [
      ("Id", object [("local", single "type" "string")]),
      ("Pet", object [("id", single "$ref" "common.yaml#/types/Id")])])])),
    (Path.ofString "/common.yaml", .ok (mapping [("types", mapping [
      ("Id", object [("remote", single "type" "string")])])]))]

def renderer : Renderer where
  object input := .ok (input.name ++ ": " ++ " ".intercalate (input.properties.map Prod.fst))
  enumeration input := .ok input.name
  union input := .ok input.name

def tokens : TokenTable := Table.ofList [("string", .direct "string")]

def path : Path := Path.ofString "/spec.yaml"

def run : Except Failure Outcome := ((declareDocument library tokens renderer path).run {}).1

def workspace : Workspace :=
  ⟨⟨path, (library.load path).toOption.getD .null⟩, library, tokens, renderer⟩

def placement : Placement where
  directory := Path.ofString "/out"
  extension := ".ts"
  exporterName := "index"
  modes := { types := .files, groups := .singleFile }

/-- The reference in `Pet` leads to the `Id` of the other document, which has a file. The name in
the file of `Pet` is imported from another file, that of the `Id` beside `Pet`. -/
theorem binds_the_other_type :
    ((workspace.schemaAt workspace.root "common.yaml#/types/Id").toOption.map fun (target, _) =>
      (target.document.path.toString, target.keys)) = some ("/common.yaml", ["types", "Id"]) ∧
    (run.toOption.map fun outcome =>
      (placement.layout outcome.generation).files.map fun file =>
        (file.path.toString, file.types, file.content, file.imports)) =
      some [("/out/Id.ts", ["Id"], "Id: local", []),
        ("/out/Pet.ts", ["Pet"], "Pet: id", [⟨"Id", "./Id"⟩]),
        ("/out/Common.ts", ["Id"], "Id: remote", [])] := by
  decide +kernel

theorem binds_by_name : ∃ outcome body, run = .ok outcome ∧ library.load path = .ok body ∧
    outcome.BindsAll ⟨⟨path, body⟩, library, tokens, renderer⟩ := by
  have ends : run.isOk = true := by decide +kernel
  cases done : run with
  | error failure =>
    rw [done] at ends
    cases ends
  | ok outcome =>
    obtain ⟨body, loaded, binds⟩ := references_bind_by_name done
    exact ⟨outcome, body, rfl, loaded, binds⟩

end SameName

end Typewright
