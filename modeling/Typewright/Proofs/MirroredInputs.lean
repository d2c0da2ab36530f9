import Typewright.Proofs.NodePositions

/-!
What templates see of a schema. The input of an object has the properties of its schema, and that of
a union the branches, one to one and in order; each of them says what its own node says. Where a
branch is declared inside of its union, its input is that of the branch resolved under its own name,
and corresponds to the branch in the same way.
-/
namespace Typewright

namespace Workspace

/-- How a node is written where it is used, and its items: the name that it is declared under if it
is cut or declares a type, and else the name that the reference is answered with, the token, or the
pattern of arrays filled with how the items are written. -/
inductive WrittenAs (workspace : Workspace) (scope : Document) (calls : List Call) :
    List String → Position → Schema → String → Option String → Prop where
  | cut {ancestry : List String} {position : Position} {node : Schema}
    (cuts : position.Cuts node ancestry) :
    WrittenAs workspace scope calls ancestry position node (position.title node) none
  | declared {ancestry : List String} {position : Position} {node : Schema}
    {kind : DeclarationKind} (isKind : node.kind? = some kind) :
    WrittenAs workspace scope calls ancestry position node (position.title node) none
  | reference {ancestry : List String} {position : Position} {reference : String}
    {note : Annotation} {answer : Declaration}
    (uncut : ¬position.Cuts (.reference reference note) ancestry)
    (answered : ⟨scope, reference, answer⟩ ∈ calls) :
    WrittenAs workspace scope calls ancestry position (.reference reference note) answer.name
      answer.input.itemType?
  | primitive {ancestry : List String} {position : Position} {type : DataType}
    {format : Option String} {note : Annotation} {token : String}
    (uncut : ¬position.Cuts (.primitive type format note) ancestry)
    (isToken : workspace.tokens.primitive type format = .ok token) :
    WrittenAs workspace scope calls ancestry position (.primitive type format note) token none
  | array {ancestry : List String} {position : Position} {items : Schema} {note : Annotation}
    {item type : String} {more : Option String}
    (uncut : ¬position.Cuts (.array items note) ancestry)
    (isItem : WrittenAs workspace scope calls (position.inside (.array items note) ancestry)
      (.item (position.title (.array items note))) items item more)
    (filled : workspace.tokens.array item = .ok type) :
    WrittenAs workspace scope calls ancestry position (.array items note) type (some item)

end Workspace

structure Property.Mirrors (workspace : Workspace) (scope : Document) (ancestry : List String)
    (required : List String) (calls : List Call) (member : String × Schema)
    (property : String × Property) : Prop where
  name : property.1 = member.1
  required : property.2.required = true ↔ member.1 ∈ required
  referenced : property.2.referenced = true ↔ member.2.isReference = true
  primitiveType : property.2.primitiveType = (member.2.declaredType?.getD .object).name
  note : property.2.note = member.2.note
  written : workspace.WrittenAs scope calls ancestry (.property member.1) member.2 property.2.type
    property.2.itemType

mutual

/-- The input is that of a schema called `name`, when the names of `ancestry` are being declared
around what is inside, the declaration begins in `s` and references are answered by `calls`. -/
inductive TemplateInput.Mirrors (workspace : Workspace) (scope : Document) :
    List String → String → Schema → Session → List Call → TemplateInput → Prop where
  | object {ancestry : List String} {name : String} {properties : List (String × Schema)}
    {required : List String} {note : Annotation} {s : Session} {calls : List Call}
    {told : List (String × Property)}
    (each : List.Forall₂ (Property.Mirrors workspace scope ancestry required calls) properties
      told) :
    TemplateInput.Mirrors workspace scope ancestry name (.object properties required note) s calls
      (.object ⟨name, name, told, note⟩)
  | enumeration {ancestry : List String} {name : String} {type : DataType} {values : List Literal}
    {note : Annotation} {s : Session} {calls : List Call} :
    TemplateInput.Mirrors workspace scope ancestry name (.enumeration type values note) s calls
      (.enumeration ⟨name, name, type.name, values, note⟩)
  | union {ancestry : List String} {name : String} {variants : List Schema} {note : Annotation}
    {s t : Session} {calls : List Call} {told : List (Composition TemplateInput)}
    (compositions : Composition.Mirror workspace scope ancestry name 1 variants s told t) :
    TemplateInput.Mirrors workspace scope ancestry name (.union variants note) s calls
      (.union ⟨name, name, told, note⟩)
  | array {ancestry : List String} {name : String} {items : Schema} {note : Annotation}
    {s : Session} {calls : List Call} {item type : String} {more : Option String}
    (isItem : workspace.WrittenAs scope calls ancestry (.item name) items item more)
    (filled : workspace.tokens.array item = .ok type) :
    TemplateInput.Mirrors workspace scope ancestry name (.array items note) s calls
      (.plain ⟨name, type, some item, note⟩)
  | primitive {ancestry : List String} {name : String} {type : DataType} {format : Option String}
    {note : Annotation} {s : Session} {calls : List Call} {token : String}
    (isToken : workspace.tokens.primitive type format = .ok token) :
    TemplateInput.Mirrors workspace scope ancestry name (.primitive type format note) s calls
      (.plain ⟨name, token, none, note⟩)

/-- The compositions of a union called `union` are those of the branches from `index` on, which are
followed one after the other between `s` and `t`. A branch that is no reference is resolved under
the name of the union with the number of the branch. -/
inductive Composition.Mirror (workspace : Workspace) (scope : Document) :
    List String → String → Nat → List Schema → Session → List (Composition TemplateInput) →
      Session → Prop where
  | nil {ancestry : List String} {union : String} {index : Nat} (s : Session) :
    Composition.Mirror workspace scope ancestry union index [] s [] s
  | referenced {ancestry : List String} {union : String} {index : Nat} {reference : String}
    {note : Annotation} {rest : List Schema} {s t u : Session} {answer : Declaration}
    {told : List (Composition TemplateInput)}
    (answers : workspace.Answers scope reference s (.ok answer) u)
    (others : Composition.Mirror workspace scope ancestry union (index + 1) rest u told t) :
    Composition.Mirror workspace scope ancestry union index (.reference reference note :: rest) s
      (.referenced answer.name :: told) t
  | inlined {ancestry : List String} {union : String} {index : Nat} {node : Schema}
    {rest : List Schema} {s t u : Session} {calls : List Call} {made : Declaration}
    {told : List (Composition TemplateInput)}
    (notReference : node.isReference = false)
    (resolved : workspace.Follows
      (workspace.declareUnder scope ancestry (Workspace.branchTypeName union index) node) s calls
      (.done made) u)
    (mirrors : Workspace.branchTypeName union index ∉ ancestry →
      TemplateInput.Mirrors workspace scope (Workspace.branchTypeName union index :: ancestry)
        (Workspace.branchTypeName union index) node s calls made.input)
    (others : Composition.Mirror workspace scope ancestry union (index + 1) rest u told t) :
    Composition.Mirror workspace scope ancestry union index (node :: rest) s
      (.inlined (node.declaredType?.map DataType.name) made.input made.content :: told) t

end

namespace Workspace
variable {workspace : Workspace} {scope : Document} {s t u : Session} {calls more : List Call}
variable {name : String} {result : Declaration} {ancestry : List String} {schema node : Schema}
variable {position : Position}

theorem written_mono {text : String} {items : Option String} (grows : calls ⊆ more)
    (written : workspace.WrittenAs scope calls ancestry position node text items) :
    workspace.WrittenAs scope more ancestry position node text items := by
  induction written with
  | cut cuts => exact .cut cuts
  | declared isKind => exact .declared isKind
  | reference uncut answered => exact .reference uncut (grows answered)
  | primitive uncut isToken => exact .primitive uncut isToken
  | array uncut _ filled ih => exact .array uncut ih filled

theorem position_written
    (follows : workspace.Follows (position.declare workspace scope ancestry node) s calls
      (.done result) t) :
    workspace.WrittenAs scope calls ancestry position node (itemText node result.input)
      result.input.itemType? := by
  induction node using Schema.induction generalizing position ancestry s t calls result with
  | step node ih =>
    rcases follows_position follows with ⟨cuts, _, rfl⟩ | ⟨uncut, inner⟩
    · rw [itemText_pending]
      exact .cut cuts
    · cases isReference : node.isReference with
      | true =>
        cases node with
        | reference reference note =>
          obtain rfl := follows_ask inner
          exact .reference uncut List.mem_cons_self
        | _ => cases isReference
      | false =>
        obtain ⟨parts, u, each, assembles⟩ := declareNode_assembles isReference inner
        cases assembles with
        | object _ _ isInput _ =>
          subst isInput
          exact .declared rfl
        | enumeration isInput _ =>
          subst isInput
          exact .declared rfl
        | union _ _ isInput _ =>
          subst isInput
          exact .declared rfl
        | primitive isToken => exact .primitive uncut isToken
        | array filled =>
          cases each with
          | @cons _ _ first second _ _ _ _ _ one others =>
            have isItem := ih _ _ List.mem_cons_self one
            exact .array uncut (written_mono (List.subset_append_left first second) isItem) filled

theorem properties_mirror {required : List String} {members : List Member} {index : Nat}
    (each : workspace.DeclaresEach scope ancestry
      (propertyChildren index (members.map fun member => (member.name, member.schema))) s calls
      (members.map Member.declaration) t) (grows : calls ⊆ more) :
    List.Forall₂ (Property.Mirrors workspace scope ancestry required more)
      (members.map fun member => (member.name, member.schema))
      (members.map (Member.property required)) := by
  induction members generalizing index s calls with
  | nil => exact .nil
  | cons member rest ih =>
    cases each with
    | cons one others =>
      obtain ⟨inFirst, inSecond⟩ := List.append_subset.mp grows
      have written := written_mono inFirst (position_written one)
      apply List.Forall₂.cons
      · exact ⟨rfl, List.contains_iff_mem, Iff.rfl, rfl, rfl, written⟩
      · exact ih others inSecond

theorem answers_of_follows {reference : String}
    (follows : workspace.Follows (Walk.ask scope reference) s calls (.done result) t) :
    workspace.Answers scope reference s (.ok result) t :=
  runs_of_follows follows (.done _ _)

theorem branch_declare {union : String} {index : Nat} (notReference : node.isReference = false) :
    (Position.branch union index).declare workspace scope ancestry node =
      workspace.declareUnder scope ancestry (branchTypeName union index) node := by
  simp [Position.declare, declareBranch, declareUnder, notReference]

theorem compositions_mirror {union : String} {branches : List Branch} {index : Nat}
    (inner : ∀ child ∈ branchChildren union index (branches.map Branch.schema),
      child.node.isReference = false → ∀ (ancestry : List String) (name : String) (s t : Session)
        (calls : List Call) (result : Declaration),
        workspace.Follows (workspace.declareNode scope ancestry name child.node) s calls
          (.done result) t →
        TemplateInput.Mirrors workspace scope ancestry name child.node s calls result.input)
    (each : workspace.DeclaresEach scope ancestry
      (branchChildren union index (branches.map Branch.schema)) s calls
      (branches.map Branch.declaration) t) :
    Composition.Mirror workspace scope ancestry union index (branches.map Branch.schema) s
      (branches.map Branch.composition) t := by
  induction branches generalizing index s calls with
  | nil =>
    cases each with
    | nil => exact .nil _
  | cons branch rest ih =>
    obtain ⟨here, later⟩ := List.forall_mem_cons.mp inner
    cases each with
    | cons one others =>
      have others := ih later others
      obtain ⟨node, made⟩ := branch
      cases isReference : node.isReference with
      | true =>
        cases node with
        | reference reference note => exact .referenced (answers_of_follows one) others
        | _ => cases isReference
      | false =>
        have resolved := one
        rw [branch_declare isReference] at resolved
        have inlined : Branch.composition ⟨node, made⟩ =
            .inlined (node.declaredType?.map DataType.name) made.input made.content := by
          simp [Branch.composition, isReference]
        rw [List.map_cons, List.map_cons, inlined]
        refine .inlined isReference resolved (fun free => ?_) others
        apply here isReference
        simpa [declareUnder, unlessOpen, free] using resolved

theorem declareNode_mirrors (notReference : schema.isReference = false)
    (follows : workspace.Follows (workspace.declareNode scope ancestry name schema) s calls
      (.done result) t) :
    TemplateInput.Mirrors workspace scope ancestry name schema s calls result.input := by
  induction schema using Schema.induction generalizing ancestry name s t calls result with
  | step schema ih =>
    obtain ⟨parts, u, each, assembles⟩ := declareNode_assembles notReference follows
    cases assembles with
    | object listed made isInput _ =>
      subst listed made isInput
      exact .object (properties_mirror each (List.Subset.refl calls))
    | enumeration isInput _ =>
      subst isInput
      exact .enumeration
    | union listed made isInput _ =>
      subst listed made isInput
      apply TemplateInput.Mirrors.union
      apply compositions_mirror _ each
      intro child listed notReference ancestry other s t calls result follows
      exact ih name child listed notReference follows
    | array filled =>
      cases each with
      | @cons _ _ first second _ _ _ _ _ one others =>
        have isItem := written_mono (List.subset_append_left first second) (position_written one)
        exact .array isItem filled
    | primitive isToken => exact .primitive isToken

def Mirrored (workspace : Workspace) (scope : Document) (ancestry : List String) (name : String)
    (node : Schema) (s : Session) (result : Declaration) : Prop :=
  ∃ calls t, workspace.Follows (workspace.declareNode scope ancestry name node) s calls
    (.done result) t ∧ TemplateInput.Mirrors workspace scope ancestry name node s calls result.input

/-- Whatever a schema is declared as mirrors it: as a type, an item or a branch inside of the types
of these names, where one of its own name cuts it, and as a node that nothing cuts. -/
structure InputsMirror (workspace : Workspace) (scope : Document) (schema : Schema) : Prop where
  resolved : ∀ depth ancestry name s result t,
    (workspace.follow (workspace.expandWithin depth)
      (workspace.declareUnder scope ancestry name schema)).run s = (.ok result, t) →
    (name ∈ ancestry ∧ result = .pending name) ∨
      (name ∉ ancestry ∧ workspace.Mirrored scope (name :: ancestry) name schema s result)
  uncut : ∀ depth ancestry name s result t,
    (workspace.follow (workspace.expandWithin depth)
      (workspace.declareNode scope ancestry name schema)).run s = (.ok result, t) →
    workspace.Mirrored scope ancestry name schema s result

theorem inputs_mirror_schemas (workspace : Workspace) (scope : Document)
    (notReference : schema.isReference = false) : workspace.InputsMirror scope schema where
  resolved depth ancestry name s result t run := by
    obtain ⟨calls, follows⟩ := follows_of_runs (runs_of_follow depth _ run) rfl
    rcases follows_declareUnder follows with ⟨isOpen, _, same⟩ | ⟨free, inner⟩
    · exact .inl ⟨isOpen, same⟩
    · exact .inr ⟨free, calls, t, inner, declareNode_mirrors notReference inner⟩
  uncut depth ancestry name s result t run := by
    obtain ⟨calls, follows⟩ := follows_of_runs (runs_of_follow depth _ run) rfl
    exact ⟨calls, t, follows, declareNode_mirrors notReference follows⟩

end Workspace

namespace MirroredBranches
open SameName (object single renderer)
open ChainedTypes (body)
open Workspace

/-! A union of a text, a reference and an object. -/

def kind : Schema :=
  .union [.primitive .string none {}, .reference "#/types/Owner" {},
    .object [("age", .primitive .integer none {})] ["age"] {}] {}

def workspace : Workspace where
  root := ⟨Path.ofString "/spec.yaml", body [("Owner", object [("name", single "type" "string")])]⟩
  library := { documents := [] }
  tokens := Table.ofList [("string", .direct "string"), ("integer", .direct "number")]
  renderer := renderer

def told : TemplateInput → List (String × Option String)
  | .union input => input.compositions.map fun
    | .referenced name => (name, none)
    | .inlined type input _ => (input.name, type)
  | _ => []

def run : Except Failure Declaration × Session :=
  (workspace.follow (workspace.expandWithin 1)
    (workspace.declareUnder workspace.root [] "Kind" kind)).run {}

theorem kind_is_mirrored : ∃ result t, run = (.ok result, t) ∧
    told result.input = [("Kind1", some "string"), ("Owner", none), ("Kind3", some "object")] ∧
    workspace.Mirrored workspace.root ["Kind"] "Kind" kind {} result := by
  have tells : run.1.toOption.map (fun result => told result.input) =
      some [("Kind1", some "string"), ("Owner", none), ("Kind3", some "object")] := by
    decide +kernel
  rcases start : run with ⟨failure | result, t⟩
  · rw [start] at tells
    cases tells
  · rw [start] at tells
    have notReference : kind.isReference = false := rfl
    have mirror := inputs_mirror_schemas workspace workspace.root notReference
    rcases mirror.resolved 1 [] "Kind" {} result t start with ⟨isOpen, _⟩ | ⟨_, mirrored⟩
    · cases isOpen
    · exact ⟨result, t, rfl, Option.some.inj tells, mirrored⟩

end MirroredBranches

end Typewright
