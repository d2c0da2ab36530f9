import Typewright.Resolution
import Typewright.Proofs.WrittenReferences

/-!
What holds of a whole because it holds of its parts. A property that binds pass on holds of reading
behind a reference if it holds of asking for documents, and of declaring a schema if it holds of
rendering and of asking for the references in the schema.
-/
namespace Typewright

variable {workspace : Workspace} {scope : Document} {reference : String}

/-! Reading behind references -/

structure Resolve.Partwise (holds : {α : Type} → Resolve α → Prop) : Prop where
  result : ∀ {α : Type} (result : Except Failure α), holds (ofExcept result)
  bind : ∀ {α β : Type} {action : Resolve α} {next : α → Resolve β}, holds action →
    (∀ value, holds (next value)) → holds (action >>= next)

namespace Resolve.Partwise
variable {holds : {α : Type} → Resolve α → Prop}

theorem place (partwise : Partwise holds)
    (documents : ∀ path : Path, holds (workspace.document path.normalize)) :
    holds (workspace.place scope reference) := by
  unfold Workspace.place
  split
  · exact partwise.result (.error _)
  · exact partwise.result (.ok _)
  · split
    · exact partwise.result (.error _)
    · exact partwise.bind (documents _) fun _ => partwise.result (.ok _)

theorem locate (partwise : Partwise holds)
    (documents : ∀ path : Path, holds (workspace.document path.normalize)) :
    holds (workspace.locate scope reference) := by
  unfold Workspace.locate
  refine partwise.bind (partwise.place documents) fun (document, pointer) => ?_
  dsimp only
  split
  · exact partwise.result (.error _)
  · exact partwise.result (.ok _)

theorem readTarget (partwise : Partwise holds)
    (documents : ∀ path : Path, holds (workspace.document path.normalize)) :
    holds (workspace.readTarget scope reference) :=
  partwise.bind (partwise.locate documents) fun _ =>
    partwise.bind (partwise.result _) fun _ => partwise.result (.ok _)

theorem readSchema (partwise : Partwise holds)
    (documents : ∀ path : Path, holds (workspace.document path.normalize)) :
    holds (workspace.readSchema scope reference) :=
  partwise.bind (partwise.readTarget documents) fun _ =>
    partwise.bind (partwise.result _) fun _ => partwise.result (.ok _)

theorem readGroup (partwise : Partwise holds)
    (documents : ∀ path : Path, holds (workspace.document path.normalize)) :
    holds (workspace.readGroup scope reference) :=
  partwise.bind (partwise.readTarget documents) fun _ =>
    partwise.bind (partwise.result _) fun _ => partwise.result (.ok _)

end Resolve.Partwise

/-! Declaring schemas -/

theorem Workspace.declareEntries_decoded {name : String} {value : Yaml.Value} {schema : Schema}
    {rest : List (String × Yaml.Value)} {declared : Declarations}
    (decoded : Schema.decodeNamed name value = .ok schema) :
    workspace.declareEntries scope ((name, value) :: rest) declared =
      workspace.declare scope name schema >>= fun made =>
        workspace.declareEntries scope rest (list name schema made declared) := by
  simp only [declareEntries, decoded]
  rfl

/-- The property holds of walks that only render or end at once, and binds pass it on. -/
structure Walk.Partwise (holds : {α : Type} → Walk α → Prop) : Prop where
  result : ∀ {α : Type} (result : Except Failure α), holds (ofExcept result)
  render : ∀ (kind : DeclarationKind) (name : String) (text : Except Failure String),
    holds (Workspace.render kind name text)
  bind : ∀ {α β : Type} {walk : Walk α} {next : α → Walk β}, holds walk →
    (∀ value, holds (next value)) → holds (walk >>= next)

namespace Walk.Partwise
variable {holds : {α : Type} → Walk α → Prop}

theorem unlessOpen (partwise : Partwise holds) {ancestry : List String} {name : String}
    {walk : Walk Declaration} (inner : holds walk) :
    holds (Workspace.unlessOpen ancestry name walk) := by
  unfold Workspace.unlessOpen
  split
  · exact partwise.result (.ok _)
  · exact inner

theorem declareProperty (partwise : Partwise holds) {ancestry : List String} {property : String}
    {schema : Schema} {declare : List String → String → Walk Declaration}
    (inner : ∀ around name, holds (declare around name)) :
    holds (Workspace.declareProperty ancestry property declare schema) := by
  unfold Workspace.declareProperty
  split
  · exact partwise.unlessOpen (inner _ _)
  · exact partwise.unlessOpen (inner _ _)
  · exact inner _ _
  · exact inner _ _

theorem declareBranch (partwise : Partwise holds) {ancestry : List String} {name : String}
    {schema : Schema} {declare : List String → String → Walk Declaration}
    (inner : ∀ around name, holds (declare around name)) :
    holds (Workspace.declareBranch ancestry name declare schema) := by
  unfold Workspace.declareBranch
  split
  · exact inner _ _
  · exact partwise.unlessOpen (inner _ _)

mutual

theorem declareNode (partwise : Partwise holds) (ancestry : List String) (name : String) :
    (schema : Schema) → (∀ reference ∈ schema.references, holds (Walk.ask scope reference)) →
    holds (workspace.declareNode scope ancestry name schema)
  | .object properties _ _, asks =>
    partwise.bind (declareProperties partwise ancestry properties asks) fun _ =>
      partwise.bind (partwise.render _ _ _) fun _ => partwise.result (.ok _)
  | .enumeration .., _ => partwise.bind (partwise.render _ _ _) fun _ => partwise.result (.ok _)
  | .union variants _, asks =>
    partwise.bind (declareVariants partwise ancestry name 1 variants asks) fun _ =>
      partwise.bind (partwise.render _ _ _) fun _ => partwise.result (.ok _)
  | .array items _, asks =>
    partwise.bind (partwise.unlessOpen (declareNode partwise _ _ items asks)) fun _ =>
      partwise.bind (partwise.result _) fun _ => partwise.result (.ok _)
  | .reference target _, asks => asks target List.mem_cons_self
  | .primitive .., _ => partwise.bind (partwise.result _) fun _ => partwise.result (.ok _)

theorem declareProperties (partwise : Partwise holds) (ancestry : List String) :
    (properties : List (String × Schema)) →
    (∀ reference ∈ Schema.referencesOfProperties properties, holds (Walk.ask scope reference)) →
    holds (workspace.declareProperties scope ancestry properties)
  | [], _ => partwise.result (.ok _)
  | (_, schema) :: rest, asks =>
    partwise.bind
      (partwise.declareProperty fun around name => declareNode partwise around name schema
        fun reference written => asks reference (List.mem_append_left _ written))
      fun _ => partwise.bind
        (declareProperties partwise ancestry rest fun reference written =>
          asks reference (List.mem_append_right _ written))
        fun _ => partwise.result (.ok _)

theorem declareVariants (partwise : Partwise holds) (ancestry : List String) (union : String)
    (position : Nat) : (variants : List Schema) →
    (∀ reference ∈ Schema.referencesOfVariants variants, holds (Walk.ask scope reference)) →
    holds (workspace.declareVariants scope ancestry union position variants)
  | [], _ => partwise.result (.ok _)
  | schema :: rest, asks =>
    partwise.bind
      (partwise.declareBranch fun around name => declareNode partwise around name schema
        fun reference written => asks reference (List.mem_append_left _ written))
      fun _ => partwise.bind
        (declareVariants partwise ancestry union (position + 1) rest fun reference written =>
          asks reference (List.mem_append_right _ written))
        fun _ => partwise.result (.ok _)

end

theorem declareUnder (partwise : Partwise holds) {ancestry : List String} {name : String}
    {schema : Schema}
    (asks : ∀ reference ∈ schema.references, holds (Walk.ask scope reference)) :
    holds (workspace.declareUnder scope ancestry name schema) :=
  partwise.unlessOpen (partwise.declareNode _ _ schema asks)

theorem declareEntries (partwise : Partwise holds) {entries : List (String × Yaml.Value)}
    {declared : Declarations}
    (asks : ∀ entry ∈ entries, ∀ reference ∈ entry.2.references,
      holds (Walk.ask scope reference)) :
    holds (workspace.declareEntries scope entries declared) := by
  induction entries generalizing declared with
  | nil => exact partwise.result (.ok _)
  | cons entry rest ih =>
    obtain ⟨name, value⟩ := entry
    obtain ⟨here, later⟩ := List.forall_mem_cons.mp asks
    cases decoded : Schema.decodeNamed name value with
    | error failure =>
      rw [Workspace.declareEntries, decoded]
      exact partwise.result (.error failure)
    | ok schema =>
      rw [Workspace.declareEntries_decoded decoded]
      refine partwise.bind (partwise.declareUnder fun reference written => ?_) fun _ => ih later
      exact here reference (Schema.decodeNamed_references decoded written)

end Walk.Partwise

end Typewright
