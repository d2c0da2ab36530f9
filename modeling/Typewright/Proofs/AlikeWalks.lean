import Mathlib.Data.List.Forall2
import Typewright.Proofs.NodeReferences
import Typewright.Proofs.Termination

/-!
Walks that differ in their answers only. A schema asks for the same references whatever it is
answered, and renders inputs that are alike: they differ in how references and arrays are written.
With a renderer that does not see such a difference, a walk that ended well once ends well with any
answers.
-/
namespace Typewright

/-! Inputs that are alike -/

structure Property.Alike (a b : Property) : Prop where
  required : a.required = b.required
  referenced : a.referenced = b.referenced
  primitiveType : a.primitiveType = b.primitiveType
  note : a.note = b.note
  written : a.referenced = false → a.primitiveType ≠ DataType.array.name →
    a.type = b.type ∧ a.itemType = b.itemType

structure ObjectInput.Alike (a b : ObjectInput) : Prop where
  name : a.name = b.name
  type : a.type = b.type
  note : a.note = b.note
  properties : List.Forall₂ (fun p q => p.1 = q.1 ∧ p.2.Alike q.2) a.properties b.properties

mutual

inductive TemplateInput.Alike : TemplateInput → TemplateInput → Prop where
  | object {a b : ObjectInput} (alike : a.Alike b) : TemplateInput.Alike (.object a) (.object b)
  | enumeration (input : EnumInput) : TemplateInput.Alike (.enumeration input) (.enumeration input)
  | union {a b : UnionInput TemplateInput} (name : a.name = b.name) (type : a.type = b.type)
    (note : a.note = b.note)
    (compositions : List.Forall₂ Composition.Alike a.compositions b.compositions) :
    TemplateInput.Alike (.union a) (.union b)
  | plain {a b : PlainInput} (name : a.name = b.name) (note : a.note = b.note) :
    TemplateInput.Alike (.plain a) (.plain b)

inductive Composition.Alike : Composition TemplateInput → Composition TemplateInput → Prop where
  | referenced (first second : String) : Composition.Alike (.referenced first) (.referenced second)
  | inlined {declared : Option String} {a b : TemplateInput} (first second : String)
    (alike : TemplateInput.Alike a b)
    (written : declared ≠ some DataType.array.name → a.type = b.type ∧ a.itemType? = b.itemType?) :
    Composition.Alike (.inlined declared a first) (.inlined declared b second)

end

/-- Whether a text can be rendered does not depend on how references and arrays are written in the
input, nor on the texts of branches. -/
structure Renderer.IsBlind (renderer : Renderer) : Prop where
  object : ∀ a b : ObjectInput, a.Alike b →
    (renderer.object a).isOk = (renderer.object b).isOk
  union : ∀ a b : UnionInput TemplateInput, TemplateInput.Alike (.union a) (.union b) →
    (renderer.union a).isOk = (renderer.union b).isOk

structure Declaration.Alike (schema : Schema) (a b : Declaration) : Prop where
  input : schema.isReference = false → TemplateInput.Alike a.input b.input
  written : schema.isReference = false → schema.declaredType? ≠ some .array →
    a.input.type = b.input.type ∧ a.input.itemType? = b.input.itemType?

theorem alike_pending (schema : Schema) (name : String) :
    Declaration.Alike schema (.pending name) (.pending name) :=
  ⟨fun _ => .plain rfl rfl, fun _ _ => ⟨rfl, rfl⟩⟩

structure Member.Alike (a b : Member) : Prop where
  name : a.name = b.name
  schema : a.schema = b.schema
  declaration : Declaration.Alike a.schema a.declaration b.declaration

structure Branch.Alike (a b : Branch) : Prop where
  schema : a.schema = b.schema
  declaration : Declaration.Alike a.schema a.declaration b.declaration

theorem property_alike {a b : Member} (required : List String) (alike : a.Alike b) :
    (a.property required).1 = (b.property required).1 ∧
      (a.property required).2.Alike (b.property required).2 := by
  obtain ⟨name, schema, declaration⟩ := a
  obtain ⟨_, _, other⟩ := b
  obtain ⟨rfl, rfl, alike⟩ := alike
  refine ⟨rfl, rfl, rfl, rfl, rfl, fun notReference notArray => ?_⟩
  have notReference : schema.isReference = false := notReference
  have single : schema.declaredType? ≠ some .array := by
    intro same
    exact notArray (by simp [Member.property, same])
  simpa [Member.property, notReference] using alike.written notReference single

theorem composition_alike {a b : Branch} (alike : a.Alike b) :
    Composition.Alike a.composition b.composition := by
  obtain ⟨schema, declaration⟩ := a
  obtain ⟨_, other⟩ := b
  obtain ⟨rfl, alike⟩ := alike
  unfold Branch.composition
  cases isReference : schema.isReference with
  | true => simpa using .referenced _ _
  | false =>
    simp only [Bool.false_eq_true, if_false]
    refine .inlined _ _ (alike.input isReference) fun notArray => alike.written isReference ?_
    intro same
    exact notArray (by simp [same])

/-! Walks that match -/

/-- The walks ask for the same references whatever they are answered, and fail together if they are
`firm`. -/
inductive Walk.Matches (firm : Prop) {α β : Type} (good : α → β → Prop) :
    Walk α → Walk β → Prop where
  | done {a : α} {b : β} (same : good a b) : Matches firm good (.done a) (.done b)
  | failed (f g : Failure) : Matches firm good (.failed f) (.failed g)
  | failedFirst (f : Failure) {walk : Walk β} (loose : ¬firm) : Matches firm good (.failed f) walk
  | failedSecond (g : Failure) {walk : Walk α} (loose : ¬firm) : Matches firm good walk (.failed g)
  | noting {event other : Event} {walk : Walk α} {rest : Walk β}
    (later : Matches firm good walk rest) :
    Matches firm good (.noting event walk) (.noting other rest)
  | asking {scope : Document} {reference : String} {walk : Declaration → Walk α}
    {rest : Declaration → Walk β} (later : ∀ a b, Matches firm good (walk a) (rest b)) :
    Matches firm good (.asking scope reference walk) (.asking scope reference rest)

section Matches
variable {firm : Prop} {good : α → β → Prop} {fits : γ → δ → Prop}

theorem matches_bind {first : Walk α} {second : Walk β} {next : α → Walk γ} {later : β → Walk δ}
    (walks : Walk.Matches firm good first second)
    (rest : ∀ a b, good a b → Walk.Matches firm fits (next a) (later b)) :
    Walk.Matches firm fits (first >>= next) (second >>= later) := by
  induction walks with
  | done same => exact rest _ _ same
  | failed f g => exact .failed f g
  | failedFirst f loose => exact .failedFirst f loose
  | failedSecond g loose => exact .failedSecond g loose
  | noting _ ih => exact .noting ih
  | asking _ ih => exact .asking ih

theorem matches_ofExcept {first : Except Failure α} {second : Except Failure β}
    (same : firm → first.isOk = second.isOk)
    (holds : ∀ a b, first = .ok a → second = .ok b → good a b) :
    Walk.Matches firm good (Walk.ofExcept first) (Walk.ofExcept second) := by
  cases first with
  | error f =>
    cases second with
    | error g => exact .failed f g
    | ok b => exact .failedFirst f fun isFirm => nomatch same isFirm
  | ok a =>
    cases second with
    | error g => exact .failedSecond g fun isFirm => nomatch same isFirm
    | ok b => exact .done (holds a b rfl rfl)

theorem matches_unlessOpen {ancestry : List String} {name : String} {schema : Schema}
    {first second : Walk Declaration}
    (walks : Walk.Matches firm (Declaration.Alike schema) first second) :
    Walk.Matches firm (Declaration.Alike schema) (Workspace.unlessOpen ancestry name first)
      (Workspace.unlessOpen ancestry name second) := by
  unfold Workspace.unlessOpen
  split
  · exact .done (alike_pending schema name)
  · exact walks

theorem matches_declareProperty {ancestry : List String} {property : String} {schema : Schema}
    {first second : List String → String → Walk Declaration}
    (walks : ∀ around name,
      Walk.Matches firm (Declaration.Alike schema) (first around name) (second around name)) :
    Walk.Matches firm (Declaration.Alike schema)
      (Workspace.declareProperty ancestry property first schema)
      (Workspace.declareProperty ancestry property second schema) := by
  unfold Workspace.declareProperty
  split
  · exact matches_unlessOpen (walks _ _)
  · exact matches_unlessOpen (walks _ _)
  · exact walks _ _
  · exact walks _ _

theorem matches_declareBranch {ancestry : List String} {name : String} {schema : Schema}
    {first second : List String → String → Walk Declaration}
    (walks : ∀ around name,
      Walk.Matches firm (Declaration.Alike schema) (first around name) (second around name)) :
    Walk.Matches firm (Declaration.Alike schema)
      (Workspace.declareBranch ancestry name first schema)
      (Workspace.declareBranch ancestry name second schema) := by
  unfold Workspace.declareBranch
  split
  · exact walks _ _
  · exact matches_unlessOpen (walks _ _)

end Matches

namespace Workspace
variable {workspace : Workspace} {scope : Document} {firm : Prop}

theorem matches_render {kind : DeclarationKind} {name : String}
    {first second : Except Failure String} (same : firm → first.isOk = second.isOk) :
    Walk.Matches firm (fun _ _ => True) (render kind name first) (render kind name second) :=
  .noting (matches_ofExcept same fun _ _ _ _ => trivial)

theorem declareObject_matches (blind : firm → workspace.renderer.IsBlind) {name : String}
    {schema : Schema} {required : List String} {note : Annotation} {members others : List Member}
    (alike : List.Forall₂ Member.Alike members others) :
    Walk.Matches firm (Declaration.Alike schema)
      (workspace.declareObject name required note members)
      (workspace.declareObject name required note others) := by
  have inputs : ObjectInput.Alike ⟨name, name, members.map (Member.property required), note⟩
      ⟨name, name, others.map (Member.property required), note⟩ :=
    ⟨rfl, rfl, rfl, by
      rw [List.forall₂_map_left_iff, List.forall₂_map_right_iff]
      exact alike.imp fun _ _ => property_alike required⟩
  refine matches_bind (matches_render fun isFirm => (blind isFirm).object _ _ inputs)
    fun _ _ _ => .done ⟨fun _ => .object inputs, fun _ _ => ⟨rfl, rfl⟩⟩

theorem declareUnion_matches (blind : firm → workspace.renderer.IsBlind) {name : String}
    {schema : Schema} {note : Annotation} {branches others : List Branch}
    (alike : List.Forall₂ Branch.Alike branches others) :
    Walk.Matches firm (Declaration.Alike schema) (workspace.declareUnion name note branches)
      (workspace.declareUnion name note others) := by
  have inputs : TemplateInput.Alike (.union ⟨name, name, branches.map Branch.composition, note⟩)
      (.union ⟨name, name, others.map Branch.composition, note⟩) :=
    .union rfl rfl rfl (by
      rw [List.forall₂_map_left_iff, List.forall₂_map_right_iff]
      exact alike.imp fun _ _ => composition_alike)
  refine matches_bind (matches_render fun isFirm => (blind isFirm).union _ _ inputs)
    fun _ _ _ => .done ⟨fun _ => inputs, fun _ _ => ⟨rfl, rfl⟩⟩

theorem declareEnumeration_matches {name : String} {schema : Schema} {type : DataType}
    {values : List Literal} {note : Annotation} :
    Walk.Matches firm (Declaration.Alike schema)
      (workspace.declareEnumeration name type values note)
      (workspace.declareEnumeration name type values note) :=
  matches_bind (matches_render fun _ => rfl)
    fun _ _ _ => .done ⟨fun _ => .enumeration _, fun _ _ => ⟨rfl, rfl⟩⟩

theorem declareArray_matches {name : String} {items : Schema} {note : Annotation}
    {item other : Declaration} :
    Walk.Matches firm (Declaration.Alike (.array items note))
      (workspace.declareArray name items note item)
      (workspace.declareArray name items note other) := by
  have same (first second : String) :
      (workspace.tokens.array first).isOk = (workspace.tokens.array second).isOk := by
    unfold TokenTable.array
    cases workspace.tokens.arrayPattern <;> rfl
  have filled (first second : String) :
      Walk.Matches firm (fun _ _ => True) (Walk.ofExcept (workspace.tokens.array first))
        (Walk.ofExcept (workspace.tokens.array second)) :=
    matches_ofExcept (fun _ => same first second) fun _ _ _ _ => trivial
  exact matches_bind (filled _ _)
    fun _ _ _ => .done ⟨fun _ => .plain rfl rfl, fun _ notArray => absurd rfl notArray⟩

theorem declarePrimitive_matches {name : String} {schema : Schema} {type : DataType}
    {format : Option String} {note : Annotation} :
    Walk.Matches firm (Declaration.Alike schema)
      (workspace.declarePrimitive name type format note)
      (workspace.declarePrimitive name type format note) := by
  have filled : Walk.Matches firm Eq (Walk.ofExcept (workspace.tokens.primitive type format))
      (Walk.ofExcept (workspace.tokens.primitive type format)) :=
    matches_ofExcept (fun _ => rfl) fun _ _ first second => Except.ok.inj (first.symm.trans second)
  exact matches_bind filled
    fun _ _ same => .done ⟨fun _ => .plain rfl rfl, fun _ _ => ⟨same, rfl⟩⟩

mutual

theorem declareNode_matches (blind : firm → workspace.renderer.IsBlind) : (schema : Schema) →
    (ancestry : List String) → (name : String) →
    Walk.Matches firm (Declaration.Alike schema) (workspace.declareNode scope ancestry name schema)
      (workspace.declareNode scope ancestry name schema)
  | .object properties _ _, ancestry, _ =>
    matches_bind (declareProperties_matches blind properties ancestry) fun _ _ alike =>
      declareObject_matches blind alike
  | .enumeration .., _, _ => declareEnumeration_matches
  | .union variants _, ancestry, name =>
    matches_bind (declareVariants_matches blind variants ancestry name 1) fun _ _ alike =>
      declareUnion_matches blind alike
  | .array items _, _, _ =>
    matches_bind (matches_unlessOpen (declareNode_matches blind items _ _)) fun _ _ _ =>
      declareArray_matches
  | .reference .., _, _ => .asking fun _ _ => .done ⟨nofun, nofun⟩
  | .primitive .., _, _ => declarePrimitive_matches

theorem declareProperties_matches (blind : firm → workspace.renderer.IsBlind) :
    (properties : List (String × Schema)) → (ancestry : List String) →
    Walk.Matches firm (List.Forall₂ Member.Alike)
      (workspace.declareProperties scope ancestry properties)
      (workspace.declareProperties scope ancestry properties)
  | [], _ => .done .nil
  | (_, schema) :: rest, ancestry =>
    matches_bind
      (matches_declareProperty fun around name => declareNode_matches blind schema around name)
      fun _ _ alike => matches_bind (declareProperties_matches blind rest ancestry)
        fun _ _ others => .done (.cons ⟨rfl, rfl, alike⟩ others)

theorem declareVariants_matches (blind : firm → workspace.renderer.IsBlind) :
    (variants : List Schema) → (ancestry : List String) → (union : String) → (position : Nat) →
    Walk.Matches firm (List.Forall₂ Branch.Alike)
      (workspace.declareVariants scope ancestry union position variants)
      (workspace.declareVariants scope ancestry union position variants)
  | [], _, _, _ => .done .nil
  | schema :: rest, ancestry, union, position =>
    matches_bind
      (matches_declareBranch fun around name => declareNode_matches blind schema around name)
      fun _ _ alike =>
        matches_bind (declareVariants_matches blind rest ancestry union (position + 1))
          fun _ _ others => .done (.cons ⟨rfl, alike⟩ others)

end

theorem declare_matches (blind : firm → workspace.renderer.IsBlind) {name : String}
    {schema : Schema} :
    Walk.Matches firm (Declaration.Alike schema) (workspace.declare scope name schema)
      (workspace.declare scope name schema) := by
  unfold declare declareUnder
  exact matches_unlessOpen (declareNode_matches blind schema _ name)

theorem declareEntries_matches (blind : firm → workspace.renderer.IsBlind)
    {entries : List (String × Yaml.Value)} (first second : Declarations) :
    Walk.Matches firm (fun _ _ => True) (workspace.declareEntries scope entries first)
      (workspace.declareEntries scope entries second) := by
  induction entries generalizing first second with
  | nil => exact .done trivial
  | cons entry rest ih =>
    obtain ⟨name, value⟩ := entry
    have decoded : Walk.Matches firm Eq (Walk.ofExcept (Schema.decodeNamed name value))
        (Walk.ofExcept (Schema.decodeNamed name value)) :=
      matches_ofExcept (fun _ => rfl) fun _ _ first second =>
        Except.ok.inj (first.symm.trans second)
    refine matches_bind decoded ?_
    rintro schema _ rfl
    exact matches_bind (declare_matches blind) fun _ _ _ => ih _ _

theorem listTypes_matches (blind : firm → workspace.renderer.IsBlind) {types : TypeMap} :
    Walk.Matches firm (fun _ _ => True) (workspace.listTypes scope types)
      (workspace.listTypes scope types) :=
  declareEntries_matches blind ∅ ∅

/-! Walks that cannot fail -/

/-- However the references that it asks for are answered, the walk asks for nothing that is not
allowed, and does not fail if it is `firm`. -/
def Certain (firm : Prop) (allowed : Document → String → Prop) : Walk α → Prop
  | .done _ => True
  | .failed _ => ¬firm
  | .noting _ rest => Certain firm allowed rest
  | .asking scope reference rest =>
    allowed scope reference ∧ ∀ answer, Certain firm allowed (rest answer)
  | .grouping .. => False

section Certain
variable {allowed : Document → String → Prop} {s t : Session} {calls : List Call}

theorem asks_of_certain {walk : Walk α} (certain : Certain firm allowed walk) :
    workspace.Asks allowed walk := by
  induction walk with
  | done value => trivial
  | failed failure => trivial
  | noting event rest ih => exact ih certain
  | asking scope reference rest ih => exact ⟨certain.1, fun answer => ih answer (certain.2 answer)⟩
  | grouping scope reference rest ih => exact certain.elim

theorem certain_of_follows {good : α → β → Prop} {walk left : Walk α} {other : Walk β} {value : α}
    (follows : workspace.Follows walk s calls left t) (ends : left = .done value)
    (walks : Walk.Matches firm good walk other)
    (asked : ∀ call ∈ calls, allowed call.scope call.reference) : Certain firm allowed other := by
  induction follows generalizing other with
  | here walk s =>
    subst ends
    cases walks with
    | done => trivial
    | failedSecond g loose => exact loose
  | noting later ih =>
    cases walks with
    | noting walks => exact (ih ends walks asked :)
    | failedSecond g loose => exact loose
  | grouping read later ih =>
    cases walks with
    | failedSecond g loose => exact loose
  | asking answers later ih =>
    obtain ⟨here, others⟩ := List.forall_mem_cons.mp asked
    cases walks with
    | asking walks => exact ⟨here, fun answer => ih ends (walks _ answer) others⟩
    | failedSecond g loose => exact loose

end Certain

end Workspace

end Typewright
