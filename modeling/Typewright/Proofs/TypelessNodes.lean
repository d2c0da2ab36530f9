import Typewright.Proofs.ReferencedProperties

/-!
Nodes that declare no type: references, primitives and arrays of such nodes. At every position they
are written as what they are, whatever is being declared around them, except where the position has
the name of a type around it and the guard against cycles stands before the node. Then this name
takes the place of the node.
-/
namespace Typewright

inductive Schema.IsTypeless : Schema → Prop where
  | reference (target : String) (note : Annotation) : IsTypeless (.reference target note)
  | primitive (type : DataType) (format : Option String) (note : Annotation) :
    IsTypeless (.primitive type format note)
  | array {items : Schema} (note : Annotation) (typeless : items.IsTypeless) :
    IsTypeless (.array items note)

namespace Workspace

/-- Where a node stands: a property of an object, the items of an array, or a branch of a union. -/
inductive Position where
  | property (name : String)
  | item (array : String)
  | branch (union : String) (index : Nat)

namespace Position

def name : Position → String
  | property name => name
  | item array => itemTypeName array
  | branch union index => branchTypeName union index

def isGuarded : Position → Schema → Bool
  | property _, _ => false
  | item _, _ => true
  | branch .., node => !node.isReference

def around (position : Position) (node : Schema) (ancestry : List String) : List String :=
  if position.isGuarded node then position.name :: ancestry else ancestry

def Stops (position : Position) (node : Schema) (ancestry : List String) : Prop :=
  position.isGuarded node = true ∧ position.name ∈ ancestry

def declare (workspace : Workspace) (scope : Document) (ancestry : List String)
    (position : Position) (node : Schema) : Walk Declaration :=
  match position with
  | property name => declareProperty ancestry name
      (fun around name => workspace.declareNode scope around name node) node
  | item array => unlessOpen ancestry (itemTypeName array)
      (workspace.declareNode scope (itemTypeName array :: ancestry) (itemTypeName array) node)
  | branch union index => declareBranch ancestry (branchTypeName union index)
      (fun around name => workspace.declareNode scope around name node) node

end Position

inductive IsCut : Schema → Position → List String → Prop where
  | here {node : Schema} {position : Position} {ancestry : List String}
    (stops : position.Stops node ancestry) : IsCut node position ancestry
  | inside {items : Schema} {note : Annotation} {position : Position} {ancestry : List String}
    (isCut : IsCut items (.item position.name) (position.around (.array items note) ancestry)) :
    IsCut (.array items note) position ancestry

/-- The type is the own one of the node: for a reference the name that it has been answered with,
for a primitive its token, for an array the pattern filled with the type of the items. -/
inductive HasOwnType (tokens : TokenTable) (scope : Document) (calls : List Call) :
    Schema → String → Prop where
  | reference {reference : String} {note : Annotation} {answer : Declaration}
    (answered : ⟨scope, reference, answer⟩ ∈ calls) :
    HasOwnType tokens scope calls (.reference reference note) answer.name
  | primitive {type : DataType} {format : Option String} {note : Annotation} {token : String}
    (isToken : tokens.primitive type format = .ok token) :
    HasOwnType tokens scope calls (.primitive type format note) token
  | array {items : Schema} {note : Annotation} {item type : String}
    (isItem : HasOwnType tokens scope calls items item) (filled : tokens.array item = .ok type) :
    HasOwnType tokens scope calls (.array items note) type

/-- The type of a node that is cut: the name of its position, or the pattern of an array filled with
the type of items that are cut. -/
inductive HasCutType (tokens : TokenTable) : Schema → Position → List String → String → Prop where
  | here {node : Schema} {position : Position} {ancestry : List String}
    (stops : position.Stops node ancestry) :
    HasCutType tokens node position ancestry position.name
  | inside {items : Schema} {note : Annotation} {position : Position} {ancestry : List String}
    {item type : String}
    (isItem : HasCutType tokens items (.item position.name)
      (position.around (.array items note) ancestry) item)
    (filled : tokens.array item = .ok type) :
    HasCutType tokens (.array items note) position ancestry type

section Typeless
variable {workspace : Workspace} {scope : Document} {position : Position} {node : Schema}
variable {ancestry : List String} {s t : Session} {calls : List Call} {result : Declaration}

theorem declare_stops (stops : position.Stops node ancestry) :
    position.declare workspace scope ancestry node = .done (.pending position.name) := by
  obtain ⟨guarded, isOpen⟩ := stops
  cases position with
  | property name => cases guarded
  | item array =>
    unfold Position.declare unlessOpen
    exact if_pos isOpen
  | branch union index =>
    have notReference : node.isReference = false := by simpa [Position.isGuarded] using guarded
    simp only [Position.declare, declareBranch, notReference, unlessOpen]
    exact if_pos isOpen

theorem declare_passes (typeless : node.IsTypeless) (passes : ¬position.Stops node ancestry) :
    position.declare workspace scope ancestry node =
      workspace.declareNode scope (position.around node ancestry) position.name node := by
  cases position with
  | property name => cases typeless <;> rfl
  | item array =>
    have free : itemTypeName array ∉ ancestry := fun isOpen => passes ⟨rfl, isOpen⟩
    unfold Position.declare unlessOpen
    exact if_neg free
  | branch union index =>
    cases isReference : node.isReference with
    | true => simp [Position.declare, declareBranch, Position.around, Position.isGuarded,
        Position.name, isReference]
    | false =>
      have guarded : (Position.branch union index).isGuarded node = true := by
        simp [Position.isGuarded, isReference]
      have free : branchTypeName union index ∉ ancestry := fun isOpen => passes ⟨guarded, isOpen⟩
      simp [Position.declare, declareBranch, unlessOpen, Position.around, Position.name, free,
        guarded, isReference]

/-! Properties, items and branches are declared at their positions -/

theorem declareProperties_cons {name : String} {rest : List (String × Schema)} :
    workspace.declareProperties scope ancestry ((name, node) :: rest) =
      (Position.property name).declare workspace scope ancestry node >>= fun declaration =>
        workspace.declareProperties scope ancestry rest >>= fun members =>
          return ⟨name, node, declaration⟩ :: members := rfl

theorem declareVariants_cons {union : String} {index : Nat} {rest : List Schema} :
    workspace.declareVariants scope ancestry union index (node :: rest) =
      (Position.branch union index).declare workspace scope ancestry node >>= fun declaration =>
        workspace.declareVariants scope ancestry union (index + 1) rest >>= fun branches =>
          return ⟨node, declaration⟩ :: branches := rfl

theorem declareNode_array {items : Schema} {note : Annotation} {name : String} :
    workspace.declareNode scope ancestry name (.array items note) =
      (Position.item name).declare workspace scope ancestry items >>= fun item =>
        workspace.declareArray name items note item := rfl

theorem hasOwnType_mono {more : List Call} {type : String} (inside : calls ⊆ more)
    (own : HasOwnType workspace.tokens scope calls node type) :
    HasOwnType workspace.tokens scope more node type := by
  induction own with
  | reference answered => exact .reference (inside answered)
  | primitive isToken => exact .primitive isToken
  | array _ filled ih => exact .array ih filled

theorem declare_alike (typeless : node.IsTypeless) {other : List String}
    (uncut : ¬IsCut node position ancestry) (alsoUncut : ¬IsCut node position other) :
    position.declare workspace scope ancestry node =
      position.declare workspace scope other node := by
  induction typeless generalizing position ancestry other with
  | reference target note =>
    rw [declare_passes (.reference target note) (fun stops => uncut (.here stops)),
      declare_passes (.reference target note) (fun stops => alsoUncut (.here stops))]
    rfl
  | primitive type format note =>
    rw [declare_passes (.primitive type format note) (fun stops => uncut (.here stops)),
      declare_passes (.primitive type format note) (fun stops => alsoUncut (.here stops))]
    rfl
  | array note typeless ih =>
    rw [declare_passes (.array note typeless) (fun stops => uncut (.here stops)),
      declare_passes (.array note typeless) (fun stops => alsoUncut (.here stops)),
      declareNode_array, declareNode_array]
    have items := @ih (.item position.name) _ _ (fun inner => uncut (.inside inner))
      (fun inner => alsoUncut (.inside inner))
    rw [items]

theorem declare_own (typeless : node.IsTypeless) (uncut : ¬IsCut node position ancestry)
    (follows : workspace.Follows (position.declare workspace scope ancestry node) s calls
      (.done result) t) :
    HasOwnType workspace.tokens scope calls node (itemText node result.input) := by
  induction typeless generalizing position ancestry s t calls result with
  | reference target note =>
    rw [declare_passes (.reference target note) (fun stops => uncut (.here stops))] at follows
    obtain rfl := follows_ask follows
    exact .reference List.mem_cons_self
  | primitive type format note =>
    rw [declare_passes (.primitive type format note) (fun stops => uncut (.here stops))] at follows
    obtain ⟨token, isToken, _, rfl⟩ := follows_declarePrimitive follows
    exact .primitive isToken
  | array note typeless ih =>
    rw [declare_passes (.array note typeless) (fun stops => uncut (.here stops)),
      declareNode_array] at follows
    obtain ⟨item, first, second, u, rfl, inner, own⟩ := follows_bind_done follows
    obtain ⟨type, filled, _, rfl⟩ := follows_declareArray own
    have isItem := ih (fun isCut => uncut (.inside isCut)) inner
    exact .array (hasOwnType_mono (List.subset_append_left first second) isItem) filled

theorem declare_cut (typeless : node.IsTypeless) (isCut : IsCut node position ancestry)
    (follows : workspace.Follows (position.declare workspace scope ancestry node) s calls
      (.done result) t) :
    HasCutType workspace.tokens node position ancestry (itemText node result.input) := by
  induction isCut generalizing s t calls result with
  | @here node position ancestry stops =>
    rw [declare_stops stops] at follows
    obtain ⟨_, rfl, _⟩ := follows_done follows
    rw [itemText_pending]
    exact .here stops
  | @inside items note position ancestry isCut ih =>
    by_cases stops : position.Stops (.array items note) ancestry
    · rw [declare_stops stops] at follows
      obtain ⟨_, rfl, _⟩ := follows_done follows
      exact .here stops
    · cases typeless with
      | array _ typeless =>
        rw [declare_passes (.array note typeless) stops, declareNode_array] at follows
        obtain ⟨item, first, second, u, rfl, inner, own⟩ := follows_bind_done follows
        obtain ⟨type, filled, _, rfl⟩ := follows_declareArray own
        exact .inside (ih typeless inner) filled

end Typeless

/-- A node at a position keeps its own type under all names around it that no guard stops at. Under
others it has the name of a position in place of its type. -/
structure KeepsType (workspace : Workspace) (scope : Document) (position : Position)
    (node : Schema) : Prop where
  alike : ∀ ancestry other, ¬IsCut node position ancestry → ¬IsCut node position other →
    position.declare workspace scope ancestry node = position.declare workspace scope other node
  own : ∀ ancestry s calls result t, ¬IsCut node position ancestry →
    workspace.Follows (position.declare workspace scope ancestry node) s calls (.done result) t →
      HasOwnType workspace.tokens scope calls node (itemText node result.input)
  /-- In a history whose keys tell references apart, references are answered with the names of their
  targets. -/
  named : ∀ trace requests, (∀ request ∈ requests, Request.IsServed workspace request) →
    workspace.KeysApart (workspace.reach requests) → ∀ ancestry s calls result t,
      workspace.Begins trace requests (position.declare workspace scope ancestry node) s →
      workspace.Follows (position.declare workspace scope ancestry node) s calls (.done result) t →
        ∀ call ∈ calls, workspace.IsNamedFor call.scope call.reference call.answer.name
  cut : ∀ ancestry s calls result t, IsCut node position ancestry →
    workspace.Follows (position.declare workspace scope ancestry node) s calls (.done result) t →
      HasCutType workspace.tokens node position ancestry (itemText node result.input)

theorem typeless_nodes_keep_types (workspace : Workspace) (scope : Document) (position : Position)
    {node : Schema} (typeless : node.IsTypeless) : workspace.KeepsType scope position node where
  alike _ _ uncut alsoUncut := declare_alike typeless uncut alsoUncut
  own _ _ _ _ _ uncut follows := declare_own typeless uncut follows
  named _ _ served apart _ _ _ _ _ begins follows call member :=
    made_named served apart (begins_made begins follows call member)
  cut _ _ _ _ _ isCut follows := declare_cut typeless isCut follows

end Workspace

namespace GuardedItems
open SameName (mapping single object renderer)
open ChainedTypes (body spec)
open Workspace

/-! An object with one property, an array of texts. -/

def tags : Schema := .array (.primitive .string none {}) {}

def types (name : String) : ChainedTypes.Types :=
  [(name, object [("tags", mapping [("type", .string "array"), ("items", single "type" "string")])])]

def workspace (name : String) : Workspace where
  root := ⟨Path.ofString "/spec.yaml", body (types name)⟩
  library := { documents := [] }
  tokens := Table.ofList [("string", .direct "string"), ("array", .direct (itemMark ++ "[]"))]
  renderer := renderer

def told (name : String) : Option (List (String × Option String)) :=
  (((workspace name).declareAll (spec (types name))).run {}).1.toOption.bind fun generation =>
    (generation.types.find? name).map WalkOrder.told

theorem tags_keep_their_type :
    told "Pet" = some [("string[]", some "string")] ∧ tags.IsTypeless ∧
      ¬IsCut tags (.property "tags") ["Pet"] ∧
      (workspace "Pet").KeepsType (workspace "Pet").root (.property "tags") tags := by
  have typeless : tags.IsTypeless := .array _ (.primitive .string none {})
  refine ⟨by decide +kernel, typeless, ?_, typeless_nodes_keep_types _ _ _ typeless⟩
  rintro (⟨guarded, _⟩ | ⟨_, isOpen⟩)
  · cases guarded
  · revert isOpen
    decide +kernel

/-- In a type that is called like the items the array is one of that type. -/
theorem items_give_way_to_namesake :
    told "TagsItem" = some [("TagsItem[]", some "TagsItem")] := by
  decide +kernel

end GuardedItems

end Typewright
