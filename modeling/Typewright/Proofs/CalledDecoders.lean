import Typewright.Proofs.DecoderTexts
import Typewright.Proofs.PrimitiveSets

/-!
Which decoders the text of a type calls. Decoders are defined under the names of types, while calls
are made from the types of properties, items and branches as they are written; where a name has to
be put into another case for that, or where a type has no decoder, the call has nothing to call.
-/
namespace Typewright

open Settings

/-! How types are written -/

theorem pascalCase_brackets (item : String) :
    Text.pascalCase (item ++ "[]") = Text.pascalCase item := by
  have cut : (item ++ "[]").toList.splitOnP (fun c => !Text.isAlphanumeric c) =
      item.toList.splitOnP (fun c => !Text.isAlphanumeric c) ++ [[], []] := by
    rw [String.toList_append]
    exact List.splitOnP_append_cons item.toList [']'] (by decide)
  unfold Text.pascalCase Text.words
  rw [cut, List.flatMap_append, List.flatMap_append]
  simp [Text.cutRun]

theorem contains_append (text part : String) : Text.contains (text ++ part) part = true := by
  unfold Text.contains
  rw [String.toList_append]
  induction text.toList with
  | nil =>
    cases part.toList with
    | nil => rfl
    | cons c rest => simp [Text.occursIn]
  | cons c rest ih => simp [Text.occursIn, ih]

theorem array_token (item : String) : Presets.tokens.array item = .ok (item ++ "[]") := by
  have pattern : Presets.tokens.find? "array" = some (.direct (itemMark ++ "[]")) := rfl
  have marked : Text.contains (itemMark ++ "[]") itemMark = true := by decide +kernel
  unfold TokenTable.array TokenTable.arrayPattern
  rw [show DataType.array.name = "array" from rfl, pattern]
  simp only [marked, if_true]
  show Except.ok _ = _
  congr 1
  unfold Text.replaceAll
  rw [if_neg (by decide +kernel)]
  show String.ofList (item.toList ++ ['[', ']']) = _
  rw [String.ofList_append, String.ofList_toList]

namespace Schema

def hasText : Schema → Bool
  | .reference .. => false
  | .primitive .. => false
  | _ => true

/-- Inside of the schema called `name` there are items or a branch called `other` that declare no
type. -/
inductive HasPlain : Schema → String → String → Prop where
  | item {items : Schema} {note : Annotation} {name : String} (plain : items.kind? = none) :
    HasPlain (.array items note) name (Workspace.itemTypeName name)
  | branch {variants : List Schema} {note : Annotation} {name : String} {position : Nat}
    {schema : Schema} (listed : (schema, position) ∈ variants.zipIdx 1)
    (plain : schema.kind? = none) :
    HasPlain (.union variants note) name (Workspace.branchTypeName name position)
  | inItem {items : Schema} {note : Annotation} {name other : String}
    (inner : HasPlain items (Workspace.itemTypeName name) other) :
    HasPlain (.array items note) name other
  | inBranch {variants : List Schema} {note : Annotation} {name other : String} {position : Nat}
    {schema : Schema} (listed : (schema, position) ∈ variants.zipIdx 1)
    (inner : HasPlain schema (Workspace.branchTypeName name position) other) :
    HasPlain (.union variants note) name other
  | inProperty {properties : List (String × Schema)} {required : List String} {note : Annotation}
    {name property other : String} {schema : Schema} (listed : (property, schema) ∈ properties)
    (inner : HasPlain schema (schema.nameFor property) other) :
    HasPlain (.object properties required note) name other

end Schema

inductive Worded (known : String → Prop) : String → Prop where
  | name {name : String} (isKnown : known name) : Worded known name
  | token {type : DataType} {format : Option String} {token : String}
    (isToken : Presets.tokens.primitive type format = .ok token) : Worded known token
  | array {item : String} (worded : Worded known item) : Worded known (item ++ "[]")

/-- Why the decoder of this type is called: it is that of a known name, or one for arrays, or the
name of the decoder was made from a primitive type or in another way than names of types are. -/
inductive Called (known : String → Prop) : String → Prop where
  | name {name : String} (isKnown : known name) : Called known name
  | array : Called known "Array"
  | primitive (type : DataType) : Called known (Text.pascalCase type.name)
  | token {type : DataType} {format : Option String} {token : String}
    (isToken : Presets.tokens.primitive type format = .ok token) :
    Called known (Text.pascalCase token)
  | object {format : Option String} {token : String}
    (isToken : Presets.tokens.primitive .object format = .ok token) : Called known token
  | respelled {name : String} (isKnown : known name) : Called known (Text.pascalCase name)
  | brackets {item : String} (isEnum : Text.contains (item ++ "[]") "Enum" = true) :
    Called known (item ++ "[]")

section Spelling
variable {known : String → Prop}

theorem called_of_worded {type : String} (worded : Worded known type) :
    Called known (Text.pascalCase type) := by
  induction worded with
  | name isKnown => exact .respelled isKnown
  | token isToken => exact .token isToken
  | array _ ih =>
    rw [pascalCase_brackets]
    exact ih

/-- What the input of a schema's declaration says about its type, when the schema is called
`name`. -/
inductive Typed (known : String → Prop) (name : String) : Schema → TemplateInput → Prop where
  | declared {schema : Schema} {kind : DeclarationKind} {input : TemplateInput}
    (isKind : schema.kind? = some kind) (type : input.type = name) (isKnown : known name) :
    Typed known name schema input
  | array {items : Schema} {note : Annotation} {input : TemplateInput} {item : String}
    (worded : Worded known item) (type : input.type = item ++ "[]")
    (itemType : input.itemType? = some item) : Typed known name (.array items note) input
  | primitive {type : DataType} {format : Option String} {note : Annotation}
    {input : TemplateInput} (isToken : Presets.tokens.primitive type format = .ok input.type)
    (itemType : input.itemType? = none) : Typed known name (.primitive type format note) input
  | reference {target : String} {note : Annotation} {input : TemplateInput}
    (isKnown : known input.name) : Typed known name (.reference target note) input
  | cut {schema : Schema} {input : TemplateInput} (pending : input = .plain ⟨name, name, none, {}⟩)
    (isKnown : known name) : Typed known name schema input

def typeIn (schema : Schema) (input : TemplateInput) : String :=
  if schema.isReference then input.name else input.type

theorem worded_of_typed {name : String} {schema : Schema} {input : TemplateInput}
    (typed : Typed known name schema input) : Worded known (typeIn schema input) := by
  unfold typeIn
  cases typed with
  | declared isKind type isKnown =>
    cases schema with
    | reference => cases isKind
    | _ =>
      simp only [Schema.isReference, Bool.false_eq_true, if_false]
      exact type ▸ .name isKnown
  | array worded type _ =>
    simp only [Schema.isReference, Bool.false_eq_true, if_false]
    exact type ▸ .array worded
  | primitive isToken _ =>
    simp only [Schema.isReference, Bool.false_eq_true, if_false]
    exact .token isToken
  | reference isKnown =>
    simp only [Schema.isReference, if_true]
    exact .name isKnown
  | cut pending isKnown =>
    simp only [pending, TemplateInput.name, TemplateInput.type, ite_self]
    exact .name isKnown

end Spelling

/-! Tokens of primitive types -/

theorem token_without_enum {type : DataType} {format : Option String} {token : String}
    (isToken : Presets.tokens.primitive type format = .ok token) :
    Text.contains token "Enum" = false := by
  have all : ∀ entry ∈ Presets.tokens.values, ∀ token ∈ entry.tokens,
      Text.contains token "Enum" = false := by decide +kernel
  obtain ⟨entry, listed, inside⟩ := token_listed isToken
  exact all entry listed token inside

/-! Calls -/

section Calls
variable {known : String → Prop}

theorem called_of_decoding {property : Property} {type : DataType}
    (declared : property.primitiveType = type.name)
    (direct : property.isDirect = true → Called known property.type)
    (items : property.isDirect = false → ∀ item, property.itemType = some item →
      Called known (Text.pascalCase item)) :
    ∀ callee ∈ property.callees, Called known callee := by
  unfold Property.callees Property.decoding
  intro callee isIn
  split at isIn
  · next decoding made =>
    split at made
    · next isDirect =>
      cases made
      exact List.mem_singleton.mp isIn ▸ direct isDirect
    · next notDirect =>
      split at made
      · split at made
        · next item given =>
          cases made
          rcases List.mem_cons.mp isIn with rfl | isIn
          · exact .array
          · exact List.mem_singleton.mp isIn ▸ items (by simpa using notDirect) item given
        · cases made
      · cases made
        rw [List.mem_singleton.mp isIn, declared]
        exact .primitive type
  · cases isIn

theorem isDirect_of_declared (required : List String) {member : Member}
    (type : member.schema.isReference = false →
      member.declaration.input.type = member.schema.nameFor member.name)
    (declares : member.schema.kind? ≠ none ∨ member.schema.isReference = true) :
    (member.property required).2.isDirect = true := by
  obtain ⟨name, schema, declaration⟩ := member
  cases schema with
  | object => simp [Member.property, Property.isDirect, Schema.declaredType?, DataType.name]
  | union => simp [Member.property, Property.isDirect, Schema.declaredType?, DataType.name]
  | reference => simp [Member.property, Property.isDirect, Schema.isReference]
  | enumeration =>
    have named : declaration.input.type = Text.pascalCase name ++ "Enum" := type rfl
    simp [Member.property, Property.isDirect, Schema.isReference, named, contains_append]
  | array => simp [Schema.kind?, Schema.isReference] at declares
  | primitive => simp [Schema.kind?, Schema.isReference] at declares

theorem called_of_direct {required : List String} {member : Member}
    (typed : Typed known (member.schema.nameFor member.name) member.schema
      member.declaration.input)
    (isDirect : (member.property required).2.isDirect = true) :
    Called known (typeIn member.schema member.declaration.input) := by
  obtain ⟨name, schema, declaration⟩ := member
  dsimp only at typed ⊢
  cases typed with
  | declared isKind type isKnown =>
    have same : typeIn schema declaration.input = schema.nameFor name := by
      cases schema with
      | reference => cases isKind
      | _ => exact type
    exact same ▸ .name isKnown
  | array worded type _ =>
    have isEnum : Text.contains declaration.input.type "Enum" = true := by
      simpa [Member.property, Property.isDirect, Schema.isReference, Schema.declaredType?,
        DataType.name] using isDirect
    show Called known declaration.input.type
    rw [type] at isEnum ⊢
    exact .brackets isEnum
  | @primitive type format note input isToken _ =>
    have isObject : type.name = "object" := by
      simpa [Member.property, Property.isDirect, Schema.isReference, Schema.declaredType?,
        token_without_enum isToken] using isDirect
    cases type with
    | object => exact .object isToken
    | _ => simp [DataType.name] at isObject
  | reference isKnown => exact .name isKnown
  | cut pending isKnown =>
    have same : typeIn schema declaration.input = schema.nameFor name := by
      simp [typeIn, pending, TemplateInput.name, TemplateInput.type]
    exact same ▸ .name isKnown

theorem called_of_property {required : List String} {member : Member}
    (typed : Typed known (member.schema.nameFor member.name) member.schema
      member.declaration.input) :
    ∀ callee ∈ (member.property required).2.callees, Called known callee := by
  refine called_of_decoding rfl (called_of_direct typed) ?_
  intro notDirect item given
  have given : member.declaration.input.itemType? = some item := given
  have other (declares : member.schema.kind? ≠ none ∨ member.schema.isReference = true)
      (type : member.schema.isReference = false →
        member.declaration.input.type = member.schema.nameFor member.name) :
      Called known (Text.pascalCase item) := by
    have direct := isDirect_of_declared required type declares
    cases direct.symm.trans notDirect
  obtain ⟨name, schema, declaration⟩ := member
  dsimp only at typed given other
  cases typed with
  | declared isKind type _ => exact other (.inl (by simp [isKind])) fun _ => type
  | array worded _ itemType =>
    cases itemType.symm.trans given
    exact called_of_worded worded
  | primitive _ itemType => cases itemType.symm.trans given
  | reference => exact other (.inr rfl) fun notReference => Bool.noConfusion notReference
  | cut pending _ =>
    rw [pending] at given
    cases given

theorem known_of_reference {name : String} {schema : Schema} {input : TemplateInput}
    (typed : Typed known name schema input) (isReference : schema.isReference = true) :
    known input.name := by
  cases typed with
  | declared isKind =>
    cases schema with
    | reference => cases isKind
    | _ => cases isReference
  | array => cases isReference
  | primitive => cases isReference
  | reference isKnown => exact isKnown
  | cut pending isKnown => exact pending ▸ isKnown

theorem called_of_branch {name : String} {branch : Branch}
    (typed : Typed known name branch.schema branch.declaration.input) :
    Called known branch.composition.callee := by
  have worded := worded_of_typed typed
  unfold typeIn at worded
  unfold Branch.composition
  cases isReference : branch.schema.isReference with
  | true => exact .name (known_of_reference typed isReference)
  | false =>
    rw [isReference] at worded
    exact called_of_worded worded

end Calls

/-! The text of a declaration -/

namespace Workspace

structure Writes (workspace : Workspace) (content : String) (inputs : List TemplateInput)
    (nodes : List InlineNode) : Prop where
  texts : ∃ texts, content = String.join texts ∧
    List.Forall₂ (fun input text => workspace.renderer.text input = .ok text) inputs texts
  declared : List.Forall₂ InlineNode.IsOf nodes inputs

variable {workspace : Workspace}

theorem writes_nil : workspace.Writes "" [] [] := ⟨⟨[], rfl, .nil⟩, .nil⟩

theorem writes_cons {text content : String} {input : TemplateInput} {inputs : List TemplateInput}
    {node : InlineNode} {nodes : List InlineNode}
    (rendered : workspace.renderer.text input = .ok text) (isOf : node.IsOf input)
    (writes : workspace.Writes content inputs nodes) :
    workspace.Writes (text ++ content) (input :: inputs) (node :: nodes) := by
  obtain ⟨⟨texts, rfl, others⟩, declared⟩ := writes
  exact ⟨⟨text :: texts, String.join_cons.symm, .cons rendered others⟩, .cons isOf declared⟩

theorem writes_append {first second : String} {earlier later : List TemplateInput}
    {nodes others : List InlineNode} (one : workspace.Writes first earlier nodes)
    (other : workspace.Writes second later others) :
    workspace.Writes (first ++ second) (earlier ++ later) (nodes ++ others) := by
  obtain ⟨⟨texts, rfl, rendered⟩, declared⟩ := one
  obtain ⟨⟨more, rfl, alsoRendered⟩, alsoDeclared⟩ := other
  exact ⟨⟨texts ++ more, String.join_append.symm, List.rel_append rendered alsoRendered⟩,
    List.rel_append declared alsoDeclared⟩

end Workspace

/-- All names that a declaration can use are known: those declared around it, those behind its
references, those it declares itself and those of its parts that declare no type. -/
structure Knows (known : String → Prop) (ancestry : List String) (calls : List Call)
    (inputs : List TemplateInput) (plain : String → Prop) : Prop where
  around : ∀ name ∈ ancestry, known name
  asked : ∀ call ∈ calls, known call.answer.name
  made : ∀ input ∈ inputs, known input.name
  plain : ∀ name, plain name → known name

/-- As soon as all names are known, the conclusion holds and all calls in the texts of the inputs
are accounted for. -/
def Accounts (ancestry : List String) (calls : List Call) (inputs : List TemplateInput)
    (plain : String → Prop) (conclusion : (String → Prop) → Prop) : Prop :=
  ∀ known, Knows known ancestry calls inputs plain →
    conclusion known ∧ ∀ input ∈ inputs, ∀ callee ∈ input.callees, Called known callee

section Knowing
variable {known : String → Prop} {ancestry : List String} {calls more : List Call}
variable {inputs others : List TemplateInput} {plain wider : String → Prop}
variable {conclusion : (String → Prop) → Prop}

theorem knows_mono (knows : Knows known ancestry calls inputs plain)
    (asked : ∀ call ∈ more, call ∈ calls) (made : ∀ input ∈ others, input ∈ inputs)
    (fewer : ∀ name, wider name → plain name) : Knows known ancestry more others wider :=
  ⟨knows.around, fun call isIn => knows.asked call (asked call isIn),
    fun input isIn => knows.made input (made input isIn),
    fun name isPlain => knows.plain name (fewer name isPlain)⟩

theorem accounts_mono (accounts : Accounts ancestry calls inputs plain conclusion)
    (more : ∀ name, plain name → wider name) : Accounts ancestry calls inputs wider conclusion :=
  fun known knows => accounts known (knows_mono knows (fun _ => id) (fun _ => id) more)

theorem accounts_both {both : List TemplateInput} {inside : String → Prop}
    {other : (String → Prop) → Prop}
    (one : Accounts ancestry calls inputs plain conclusion)
    (two : Accounts ancestry more others inside other)
    (all : ∀ input, input ∈ both ↔ input ∈ inputs ∨ input ∈ others)
    (first : ∀ name, plain name → wider name) (second : ∀ name, inside name → wider name) :
    Accounts ancestry (calls ++ more) both wider fun known => conclusion known ∧ other known := by
  intro known knows
  obtain ⟨left, called⟩ := one known (knows_mono knows (fun _ => List.mem_append_left _)
    (fun input isIn => (all input).mpr (.inl isIn)) first)
  obtain ⟨right, alsoCalled⟩ := two known (knows_mono knows (fun _ => List.mem_append_right _)
    (fun input isIn => (all input).mpr (.inr isIn)) second)
  exact ⟨⟨left, right⟩, fun input isIn => ((all input).mp isIn).elim (called input)
    (alsoCalled input)⟩

theorem accounts_imp {other : (String → Prop) → Prop}
    (accounts : Accounts ancestry calls inputs plain conclusion)
    (implies : ∀ known, conclusion known → other known) :
    Accounts ancestry calls inputs plain other :=
  fun known knows => (accounts known knows).imp_left (implies known)

end Knowing

namespace Workspace
variable {workspace : Workspace} {scope : Document} {s t : Session} {calls : List Call}
variable {name : String} {result : Declaration} {ancestry : List String} {schema : Schema}

def ownContent (schema : Schema) (declaration : Declaration) : String :=
  if schema.isReference then "" else declaration.content

structure Declared (workspace : Workspace) (schema : Schema) (ancestry : List String)
    (name : String) (calls : List Call) (result : Declaration) (plain : String → Prop)
    (inputs : List TemplateInput) (nodes : List InlineNode) : Prop where
  writes : workspace.Writes (ownContent schema result) inputs nodes
  silent : schema.hasText = false → inputs = []
  accounts : Accounts ancestry calls inputs plain fun known =>
    Typed known name schema result.input

def Includes (schema : Schema) (name : String) (inputs : List TemplateInput) : Prop :=
  schema.kind? ≠ none → ∃ input ∈ inputs, input.kind? ≠ none ∧ input.name = name

theorem includes_of_nodes {path : List Hop} {inputs : List TemplateInput}
    (declared : List.Forall₂ InlineNode.IsOf (schema.nodes ancestry name path) inputs) :
    Includes schema name inputs := by
  intro declares
  obtain ⟨kind, isKind⟩ := Option.ne_none_iff_exists'.mp declares
  rw [Schema.nodes_kind isKind] at declared
  obtain ⟨input, _, own, _, rfl⟩ := List.forall₂_cons_left_iff.mp declared
  exact ⟨input, List.mem_cons_self, by simp [own.1], own.2⟩

def PlainAt (schema : Schema) (name other : String) : Prop :=
  (other = name ∧ schema.kind? = none) ∨ schema.HasPlain name other

theorem declared_around {inputs : List TemplateInput} {around : List String} {path : List Hop}
    (declared : workspace.Declared schema (name :: ancestry) name calls result
      (schema.HasPlain name) inputs (schema.nodes around name path)) :
    workspace.Declared schema ancestry name calls result (PlainAt schema name) inputs
      (schema.nodes around name path) := by
  refine ⟨declared.writes, declared.silent, fun known knows => declared.accounts known ⟨?_,
    knows.asked, knows.made, fun other isPlain => knows.plain other (.inr isPlain)⟩⟩
  refine List.forall_mem_cons.mpr ⟨?_, knows.around⟩
  by_cases plain : schema.kind? = none
  · exact knows.plain name (.inl ⟨rfl, plain⟩)
  · obtain ⟨input, isIn, _, rfl⟩ := includes_of_nodes declared.writes.declared plain
    exact knows.made input isIn

theorem ownContent_pending (schema : Schema) (name : String) :
    ownContent schema (.pending name) = "" := by
  simp [ownContent, Declaration.pending]

theorem declared_unlessOpen {walk : Walk Declaration} {path : List Hop}
    (inner : workspace.Follows walk s calls (.done result) t → ∃ inputs,
      workspace.Declared schema (name :: ancestry) name calls result (schema.HasPlain name)
        inputs (schema.nodes (name :: ancestry) name path))
    (follows : workspace.Follows (unlessOpen ancestry name walk) s calls (.done result) t) :
    ∃ inputs, workspace.Declared schema ancestry name calls result (PlainAt schema name) inputs
      (Schema.unlessCut ancestry name (schema.nodes (name :: ancestry) name path)) := by
  unfold Schema.unlessCut
  rcases follows_unlessOpen follows with ⟨taken, _, rfl⟩ | ⟨free, inside⟩
  · rw [if_pos taken]
    refine ⟨[], ?_, fun _ => rfl, fun known knows => ⟨.cut rfl (knows.around name taken), nofun⟩⟩
    rw [ownContent_pending]
    exact writes_nil
  · rw [if_neg free]
    obtain ⟨inputs, declared⟩ := inner inside
    exact ⟨inputs, declared_around declared⟩

theorem plain_of_kind {other : String} (declares : schema.kind? ≠ none)
    (plain : PlainAt schema name other) : schema.HasPlain name other :=
  plain.resolve_left fun here => declares here.2

theorem declared_of_kind {inputs : List TemplateInput} {nodes : List InlineNode}
    (declares : schema.kind? ≠ none)
    (declared : workspace.Declared schema ancestry name calls result (PlainAt schema name)
      inputs nodes) :
    workspace.Declared schema ancestry name calls result (schema.HasPlain name) inputs nodes :=
  ⟨declared.writes, declared.silent,
    accounts_mono declared.accounts fun _ => plain_of_kind declares⟩

theorem declared_property {property : String} {path : List Hop}
    {declare : List String → String → Walk Declaration}
    (inner : ∀ around name, workspace.Follows (declare around name) s calls (.done result) t →
      ∃ inputs, workspace.Declared schema around name calls result (schema.HasPlain name) inputs
        (schema.nodes around name path))
    (follows : workspace.Follows (declareProperty ancestry property declare schema) s calls
      (.done result) t) :
    ∃ inputs, workspace.Declared schema ancestry (schema.nameFor property) calls result
      (schema.HasPlain (schema.nameFor property)) inputs
      (Schema.propertyNodes ancestry property
        (fun around name => schema.nodes around name path) schema) := by
  cases schema with
  | object =>
    obtain ⟨inputs, declared⟩ := declared_unlessOpen (inner _ _) follows
    exact ⟨inputs, declared_of_kind nofun declared⟩
  | enumeration =>
    obtain ⟨inputs, declared⟩ := declared_unlessOpen (inner _ _) follows
    exact ⟨inputs, declared_of_kind nofun declared⟩
  | union =>
    obtain ⟨inputs, declared⟩ := inner _ _ follows
    exact ⟨inputs, declared_of_kind nofun (declared_around declared)⟩
  | array => exact inner _ _ follows
  | reference => exact inner _ _ follows
  | primitive => exact inner _ _ follows

theorem declared_branch {declare : List String → String → Walk Declaration} {path : List Hop}
    (inner : ∀ around, workspace.Follows (declare around name) s calls (.done result) t →
      ∃ inputs, workspace.Declared schema around name calls result (schema.HasPlain name) inputs
        (schema.nodes around name path))
    (follows : workspace.Follows (declareBranch ancestry name declare schema) s calls
      (.done result) t) :
    ∃ inputs, workspace.Declared schema ancestry name calls result (PlainAt schema name) inputs
      (Schema.unlessCut ancestry name (schema.nodes (name :: ancestry) name path)) := by
  unfold declareBranch at follows
  split at follows
  · next isReference =>
    obtain ⟨inputs, declared⟩ := inner _ follows
    rw [nodes_reference isReference] at declared ⊢
    rw [Schema.unlessCut, ite_self]
    exact ⟨inputs, declared.writes, declared.silent, accounts_mono declared.accounts fun _ => .inr⟩
  · exact declared_unlessOpen (inner _) follows

/-! What nodes declare -/

structure DeclaresMembers (workspace : Workspace) (ancestry : List String)
    (properties : List (String × Schema)) (calls : List Call) (members : List Member)
    (nested enumerations : List TemplateInput) (parts : List Part) : Prop where
  before : workspace.Writes
    (joinContents ((members.filter Member.isNested).map Member.declaration)) nested
    ((parts.filter fun part => !part.isEnumeration).flatMap Part.nodes)
  after : workspace.Writes
    (joinContents ((members.filter Member.isEnumeration).map Member.declaration)) enumerations
    ((parts.filter Part.isEnumeration).flatMap Part.nodes)
  accounts : Accounts ancestry calls (nested ++ enumerations)
    (fun other => ∃ property schema, (property, schema) ∈ properties ∧
      schema.HasPlain (schema.nameFor property) other)
    fun known => ∀ member ∈ members,
      Typed known (member.schema.nameFor member.name) member.schema member.declaration.input

structure DeclaresBranches (workspace : Workspace) (ancestry : List String) (union : String)
    (position : Nat) (variants : List Schema) (calls : List Call) (branches : List Branch)
    (inputs : List TemplateInput) (parts : List Part) : Prop where
  writes : workspace.Writes (String.join (branches.map Branch.content)) inputs
    (parts.flatMap Part.nodes)
  accounts : Accounts ancestry calls inputs
    (fun other => ∃ schema index, (schema, index) ∈ variants.zipIdx position ∧
      PlainAt schema (branchTypeName union index) other)
    fun known => ∀ branch ∈ branches, ∃ name,
      Typed known name branch.schema branch.declaration.input

theorem declares_object {required : List String} {note : Annotation} {path : List Hop}
    {properties : List (String × Schema)} {members : List Member} {first second : List Call}
    {nested enumerations : List TemplateInput}
    (declares : workspace.DeclaresMembers ancestry properties first members nested enumerations
      (Schema.propertyParts ancestry path 0 properties))
    (own : workspace.Follows (workspace.declareObject name required note members) s second
      (.done result) t) :
    ∃ inputs, workspace.Declared (.object properties required note) ancestry name
      (first ++ second) result ((Schema.object properties required note).HasPlain name) inputs
      ((Schema.object properties required note).nodes ancestry name path) := by
  obtain ⟨text, rendered, rfl, rfl⟩ := follows_declareObject own
  let input : TemplateInput := .object ⟨name, name, members.map (Member.property required), note⟩
  have made : workspace.renderer.text input = .ok text := rendered
  refine ⟨input :: (nested ++ enumerations), ⟨?_, nofun, ?_⟩⟩
  · rw [Schema.nodes_kind rfl]
    unfold Schema.innerNodes arranged
    rw [List.flatMap_append]
    have isOf : InlineNode.IsOf ⟨path, .object, name⟩ input := ⟨rfl, rfl⟩
    have writes := writes_cons made isOf (writes_append declares.before declares.after)
    rw [← String.append_assoc] at writes
    exact writes
  · intro known knows
    have isKnown : known name := knows.made input List.mem_cons_self
    obtain ⟨typed, called⟩ := declares.accounts known (knows_mono knows
      (fun _ => List.mem_append_left _) (fun _ => List.mem_cons_of_mem _)
      fun other ⟨property, schema, listed, plain⟩ => .inProperty listed plain)
    refine ⟨.declared rfl rfl isKnown, List.forall_mem_cons.mpr ⟨?_, called⟩⟩
    intro callee isIn
    obtain ⟨_, listed, isIn⟩ := List.mem_flatMap.mp isIn
    obtain ⟨member, isMember, rfl⟩ := List.mem_map.mp listed
    exact called_of_property (typed member isMember) callee isIn

theorem declares_union {note : Annotation} {variants : List Schema} {branches : List Branch}
    {first second : List Call} {inputs : List TemplateInput} {path : List Hop}
    (declares : workspace.DeclaresBranches ancestry name 1 variants first branches inputs
      (Schema.variantParts ancestry name path 1 variants))
    (own : workspace.Follows (workspace.declareUnion name note branches) s second
      (.done result) t) :
    ∃ inputs, workspace.Declared (.union variants note) ancestry name (first ++ second) result
      ((Schema.union variants note).HasPlain name) inputs
      ((Schema.union variants note).nodes ancestry name path) := by
  obtain ⟨text, rendered, rfl, rfl⟩ := follows_declareUnion own
  let input : TemplateInput := .union ⟨name, name, branches.map Branch.composition, note⟩
  have made : workspace.renderer.text input = .ok text := rendered
  refine ⟨input :: inputs, ⟨?_, nofun, ?_⟩⟩
  · rw [Schema.nodes_kind rfl]
    unfold Schema.innerNodes
    exact writes_cons made ⟨rfl, rfl⟩ declares.writes
  · intro known knows
    have isKnown : known name := knows.made input List.mem_cons_self
    have inside (other : String) : (∃ schema index, (schema, index) ∈ variants.zipIdx 1 ∧
        PlainAt schema (branchTypeName name index) other) →
        (Schema.union variants note).HasPlain name other := by
      rintro ⟨schema, index, listed, ⟨rfl, plain⟩ | plain⟩
      · exact .branch listed plain
      · exact .inBranch listed plain
    obtain ⟨typed, called⟩ := declares.accounts known (knows_mono knows
      (fun _ => List.mem_append_left _) (fun _ => List.mem_cons_of_mem _) inside)
    refine ⟨.declared rfl rfl isKnown, List.forall_mem_cons.mpr ⟨?_, called⟩⟩
    intro callee isIn
    obtain ⟨_, listed, rfl⟩ := List.mem_map.mp isIn
    obtain ⟨branch, isBranch, rfl⟩ := List.mem_map.mp listed
    obtain ⟨branchName, typed⟩ := typed branch isBranch
    exact called_of_branch typed

theorem declares_enumeration {type : DataType} {values : List Literal} {note : Annotation}
    {path : List Hop}
    (own : workspace.Follows (workspace.declareEnumeration name type values note) s calls
      (.done result) t) :
    ∃ inputs, workspace.Declared (.enumeration type values note) ancestry name calls result
      ((Schema.enumeration type values note).HasPlain name) inputs
      ((Schema.enumeration type values note).nodes ancestry name path) := by
  obtain ⟨text, rendered, rfl, rfl⟩ := follows_declareEnumeration own
  let input : TemplateInput := .enumeration ⟨name, name, type.name, values, note⟩
  have made : workspace.renderer.text input = .ok text := rendered
  refine ⟨[input], ⟨?_, nofun, ?_⟩⟩
  · rw [Schema.nodes_kind rfl]
    unfold Schema.innerNodes
    have isOf : InlineNode.IsOf ⟨path, .enumeration, name⟩ input := ⟨rfl, rfl⟩
    have writes := writes_cons made isOf writes_nil
    rw [String.append_empty] at writes
    exact writes
  · intro known knows
    have isKnown : known name := knows.made input (List.mem_singleton_self _)
    exact ⟨.declared rfl rfl isKnown, List.forall_mem_cons.mpr ⟨nofun, nofun⟩⟩

theorem declares_array {items : Schema} {note : Annotation} {item : Declaration}
    {first second : List Call} {inputs : List TemplateInput} {path : List Hop}
    (preset : workspace.tokens = Presets.tokens)
    (declared : workspace.Declared items ancestry (itemTypeName name) first item
      (PlainAt items (itemTypeName name)) inputs
      (Schema.unlessCut ancestry (itemTypeName name)
        (items.nodes (itemTypeName name :: ancestry) (itemTypeName name) (.item :: path))))
    (own : workspace.Follows (workspace.declareArray name items note item) s second
      (.done result) t) :
    workspace.Declared (.array items note) ancestry name (first ++ second) result
      ((Schema.array items note).HasPlain name) inputs
      ((Schema.array items note).nodes ancestry name path) := by
  rw [Schema.nodes_plain rfl, Schema.innerNodes_array]
  obtain ⟨type, filled, rfl, rfl⟩ := follows_declareArray own
  rw [preset, array_token] at filled
  obtain rfl := Except.ok.inj filled
  refine ⟨declared.writes, nofun, fun known knows => ?_⟩
  have inside (other : String) (plain : PlainAt items (itemTypeName name) other) :
      (Schema.array items note).HasPlain name other := by
    rcases plain with ⟨rfl, plain⟩ | plain
    · exact .item plain
    · exact .inItem plain
  obtain ⟨typed, called⟩ := declared.accounts known (knows_mono knows
    (fun _ => List.mem_append_left _) (fun _ => id) inside)
  exact ⟨.array (worded_of_typed typed) rfl rfl, called⟩

theorem hasText_of_member {member : Member} (notNested : member.isNested = false)
    (notEnumeration : member.isEnumeration = false) : member.schema.hasText = false := by
  obtain ⟨name, schema, declaration⟩ := member
  cases schema with
  | reference => rfl
  | primitive => rfl
  | enumeration => cases notEnumeration
  | _ => cases notNested

theorem declares_members_cons {property : String} {declaration : Declaration}
    {properties : List (String × Schema)} {first second : List Call} {members : List Member}
    {inputs nested enumerations : List TemplateInput} {part : Part} {parts : List Part}
    (same : part.isEnumeration = (Member.mk property schema declaration).isEnumeration)
    (declared : workspace.Declared schema ancestry (schema.nameFor property) first declaration
      (schema.HasPlain (schema.nameFor property)) inputs part.nodes)
    (declares : workspace.DeclaresMembers ancestry properties second members nested
      enumerations parts) :
    ∃ nested enumerations, workspace.DeclaresMembers ancestry ((property, schema) :: properties)
      (first ++ second) (⟨property, schema, declaration⟩ :: members) nested enumerations
      (part :: parts) := by
  let member : Member := ⟨property, schema, declaration⟩
  have accounts {before after : List TemplateInput} (all : ∀ input, input ∈ before ++ after ↔
      input ∈ inputs ∨ input ∈ nested ++ enumerations) :
      Accounts ancestry (first ++ second) (before ++ after)
        (fun other => ∃ name inner, (name, inner) ∈ (property, schema) :: properties ∧
          inner.HasPlain (inner.nameFor name) other)
        fun known => ∀ member ∈ (⟨property, schema, declaration⟩ : Member) :: members,
          Typed known (member.schema.nameFor member.name) member.schema
            member.declaration.input := by
    refine accounts_imp (accounts_both declared.accounts declares.accounts all ?_ ?_)
      fun known typed => List.forall_mem_cons.mpr typed
    · intro other plain
      exact ⟨property, schema, List.mem_cons_self, plain⟩
    · rintro other ⟨name, inner, listed, plain⟩
      exact ⟨name, inner, List.mem_cons_of_mem _ listed, plain⟩
  have writes (plain : schema.isReference = false) :
      workspace.Writes declaration.content inputs part.nodes := by
    simpa [ownContent, plain] using declared.writes
  rcases member_kinds member with ⟨isNested, other, plain⟩ | ⟨other, isEnumeration, plain⟩ |
    ⟨notNested, notEnumeration⟩
  · refine ⟨inputs ++ nested, enumerations, ?_, ?_, accounts fun input => by simp⟩
    · rw [List.filter_cons_of_pos isNested, List.filter_cons_of_pos (by simp [same, member, other]),
        List.map_cons, joinContents_cons, List.flatMap_cons]
      exact writes_append (writes plain) declares.before
    · rw [List.filter_cons_of_neg (by simp [member, other]),
        List.filter_cons_of_neg (by simp [same, member, other])]
      exact declares.after
  · refine ⟨nested, inputs ++ enumerations, ?_, ?_, accounts fun input => by simp; tauto⟩
    · rw [List.filter_cons_of_neg (by simp [member, other]),
        List.filter_cons_of_neg (by simp [same, member, isEnumeration])]
      exact declares.before
    · rw [List.filter_cons_of_pos isEnumeration,
        List.filter_cons_of_pos (by simp [same, member, isEnumeration]), List.map_cons,
        joinContents_cons, List.flatMap_cons]
      exact writes_append (writes plain) declares.after
  · have none : inputs = [] := declared.silent (hasText_of_member notNested notEnumeration)
    have silent : part.nodes = [] := by
      have declared := declared.writes.declared
      rw [none] at declared
      exact List.forall₂_nil_right_iff.mp declared
    refine ⟨nested, enumerations, ?_, ?_, accounts fun input => by simp [none]⟩
    · rw [List.filter_cons_of_neg (by simp [member, notNested]),
        List.filter_cons_of_pos (by simp [same, member, notEnumeration]), List.flatMap_cons, silent]
      exact declares.before
    · rw [List.filter_cons_of_neg (by simp [member, notEnumeration]),
        List.filter_cons_of_neg (by simp [same, member, notEnumeration])]
      exact declares.after

theorem declares_branches_cons {union : String} {position : Nat} {declaration : Declaration}
    {variants : List Schema} {first second : List Call} {branches : List Branch}
    {inputs others : List TemplateInput} {part : Part} {parts : List Part}
    (declared : workspace.Declared schema ancestry (branchTypeName union position) first
      declaration (PlainAt schema (branchTypeName union position)) inputs part.nodes)
    (declares : workspace.DeclaresBranches ancestry union (position + 1) variants second branches
      others parts) :
    workspace.DeclaresBranches ancestry union position (schema :: variants) (first ++ second)
      (⟨schema, declaration⟩ :: branches) (inputs ++ others) (part :: parts) := by
  constructor
  · rw [List.map_cons, String.join_cons]
    exact writes_append declared.writes declares.writes
  · refine accounts_imp (accounts_both declared.accounts declares.accounts
      (fun input => List.mem_append) ?_ ?_) fun known typed =>
        List.forall_mem_cons.mpr ⟨⟨_, typed.1⟩, typed.2⟩
    · intro other plain
      exact ⟨schema, position, by simp, plain⟩
    · rintro other ⟨inner, index, listed, plain⟩
      exact ⟨inner, index, by simp [listed], plain⟩

mutual

/-- Everything in the text of a schema's declaration is accounted for. -/
theorem declareNode_declared (preset : workspace.tokens = Presets.tokens) : (schema : Schema) →
    (ancestry : List String) → (name : String) → (path : List Hop) → (s t : Session) →
    (calls : List Call) → (result : Declaration) →
    workspace.Follows (workspace.declareNode scope ancestry name schema) s calls (.done result) t →
    ∃ inputs, workspace.Declared schema ancestry name calls result (schema.HasPlain name) inputs
      (schema.nodes ancestry name path)
  | .object properties _ _, ancestry, _, path, s, _, _, _, follows => by
    obtain ⟨members, first, _, u, rfl, inner, own⟩ := follows_bind_done follows
    obtain ⟨_, _, declares⟩ :=
      declareProperties_declared preset properties ancestry path 0 s u first members inner
    exact declares_object declares own
  | .enumeration .., _, _, _, _, _, _, _, follows => declares_enumeration follows
  | .union variants _, ancestry, name, path, s, _, _, _, follows => by
    obtain ⟨branches, first, _, u, rfl, inner, own⟩ := follows_bind_done follows
    obtain ⟨_, declares⟩ :=
      declareVariants_declared preset variants ancestry name path 1 s u first branches inner
    exact declares_union declares own
  | .array items _, _, _, path, s, _, _, _, follows => by
    obtain ⟨item, first, _, u, rfl, inner, own⟩ := follows_bind_done follows
    obtain ⟨inputs, declared⟩ := declared_unlessOpen
      (declareNode_declared preset items _ _ (.item :: path) s u first item) inner
    exact ⟨inputs, declares_array preset declared own⟩
  | .reference .., _, _, _, _, _, _, _, follows => by
    have asked := follows_ask follows
    rw [nodes_reference rfl]
    refine ⟨[], writes_nil, fun _ => rfl, fun known knows => ⟨.reference ?_, nofun⟩⟩
    exact knows.asked _ (asked ▸ List.mem_singleton_self _)
  | .primitive type format note, _, _, _, _, _, _, result, follows => by
    obtain ⟨token, isToken, rfl, rfl⟩ := follows_declarePrimitive follows
    rw [preset] at isToken
    rw [Schema.nodes_plain rfl]
    unfold Schema.innerNodes
    exact ⟨[], writes_nil, fun _ => rfl, fun known knows => ⟨.primitive isToken rfl, nofun⟩⟩

theorem declareProperties_declared (preset : workspace.tokens = Presets.tokens) :
    (properties : List (String × Schema)) → (ancestry : List String) → (path : List Hop) →
    (position : Nat) → (s t : Session) → (calls : List Call) → (members : List Member) →
    workspace.Follows (workspace.declareProperties scope ancestry properties) s calls
      (.done members) t →
    ∃ nested enumerations, workspace.DeclaresMembers ancestry properties calls members nested
      enumerations (Schema.propertyParts ancestry path position properties)
  | [], _, _, _, _, _, _, _, follows => by
    obtain ⟨_, rfl, _⟩ := follows_done follows
    unfold Schema.propertyParts
    exact ⟨[], [], writes_nil, writes_nil, fun _ _ => ⟨nofun, nofun⟩⟩
  | (property, schema) :: rest, ancestry, path, position, s, _, _, _, follows => by
    obtain ⟨declaration, first, _, u, rfl, one, later⟩ := follows_bind_done follows
    obtain ⟨tail, second, _, v, rfl, more, done⟩ := follows_bind_done later
    obtain ⟨rfl, rfl, _⟩ := follows_done done
    obtain ⟨_, declared⟩ := declared_property (fun around name =>
      declareNode_declared preset schema around name (.property position :: path) s u first
        declaration) one
    obtain ⟨_, _, declares⟩ :=
      declareProperties_declared preset rest ancestry path (position + 1) u v second tail more
    rw [List.append_nil]
    unfold Schema.propertyParts
    exact declares_members_cons (by cases schema <;> rfl) declared declares

theorem declareVariants_declared (preset : workspace.tokens = Presets.tokens) :
    (variants : List Schema) → (ancestry : List String) → (union : String) → (path : List Hop) →
    (position : Nat) → (s t : Session) → (calls : List Call) → (branches : List Branch) →
    workspace.Follows (workspace.declareVariants scope ancestry union position variants) s calls
      (.done branches) t →
    ∃ inputs, workspace.DeclaresBranches ancestry union position variants calls branches inputs
      (Schema.variantParts ancestry union path position variants)
  | [], _, _, _, _, _, _, _, _, follows => by
    obtain ⟨_, rfl, _⟩ := follows_done follows
    unfold Schema.variantParts
    exact ⟨[], writes_nil, fun _ _ => ⟨nofun, nofun⟩⟩
  | schema :: rest, ancestry, union, path, position, s, _, _, _, follows => by
    obtain ⟨declaration, first, _, u, rfl, one, later⟩ := follows_bind_done follows
    obtain ⟨tail, second, _, v, rfl, more, done⟩ := follows_bind_done later
    obtain ⟨rfl, rfl, _⟩ := follows_done done
    obtain ⟨_, declared⟩ := declared_branch (fun around =>
      declareNode_declared preset schema around _ (.branch position :: path) s u first
        declaration) one
    obtain ⟨_, declares⟩ := declareVariants_declared preset rest ancestry union path (position + 1)
      u v second tail more
    rw [List.append_nil]
    unfold Schema.variantParts
    exact ⟨_, declares_branches_cons declared declares⟩

end

end Workspace

end Typewright
