import Typewright.Proofs.InlineDeclarations
import Typewright.Proofs.TypelessNodes

/-!
The nodes inside a schema and how they are declared where they stand. At its position a node is cut,
if its name is being declared around it, or it is declared under that name with the names around it.
What a node is declared as is put together from what the nodes directly inside are declared as.
-/
namespace Typewright

namespace Workspace.Position

def title : Position → Schema → String
  | property name, node => node.nameFor name
  | item array, _ => itemTypeName array
  | branch union index, _ => branchTypeName union index

/-- Whether a name around the node can cut it. Of properties only objects and enumerations are cut,
of branches all but references. -/
def isExposed : Position → Schema → Bool
  | property _, .object .. => true
  | property _, .enumeration .. => true
  | property _, _ => false
  | item _, _ => true
  | branch .., node => !node.isReference

def isEntered : Position → Schema → Bool
  | property _, node => node.kind?.isSome
  | item _, _ => true
  | branch .., node => !node.isReference

def inside (position : Position) (node : Schema) (ancestry : List String) : List String :=
  if position.isEntered node then position.title node :: ancestry else ancestry

/-- The node is cut: its name is being declared around it. -/
def Cuts (position : Position) (node : Schema) (ancestry : List String) : Prop :=
  position.isExposed node = true ∧ position.title node ∈ ancestry

instance (position : Position) (node : Schema) (ancestry : List String) :
    Decidable (position.Cuts node ancestry) :=
  inferInstanceAs (Decidable (_ ∧ _))

theorem declare_eq (workspace : Workspace) (scope : Document) (ancestry : List String)
    (position : Position) (node : Schema) :
    position.declare workspace scope ancestry node =
      if position.Cuts node ancestry then .done (.pending (position.title node))
      else workspace.declareNode scope (position.inside node ancestry) (position.title node)
        node := by
  cases position with
  | property name =>
    cases node <;> simp [declare, declareProperty, unlessOpen, Cuts, isExposed, inside, isEntered,
      title, Schema.nameFor, Schema.kind?, pure]
  | item array =>
    simp [declare, unlessOpen, Cuts, isExposed, inside, isEntered, title, pure]
  | branch union index =>
    cases isReference : node.isReference <;> simp [declare, declareBranch, unlessOpen, Cuts,
      isExposed, inside, isEntered, title, isReference, pure]

end Workspace.Position

structure Child where
  hop : Hop
  position : Workspace.Position
  node : Schema

def propertyChildren (index : Nat) : List (String × Schema) → List Child
  | [] => []
  | (property, node) :: rest =>
    ⟨.property index, .property property, node⟩ :: propertyChildren (index + 1) rest

def branchChildren (union : String) (index : Nat) : List Schema → List Child
  | [] => []
  | node :: rest =>
    ⟨.branch index, .branch union index, node⟩ :: branchChildren union (index + 1) rest

theorem mem_propertyChildren {child : Child} {index : Nat} {properties : List (String × Schema)}
    (member : child ∈ propertyChildren index properties) :
    ∃ property position, (property, child.node) ∈ properties ∧ child.hop = .property position ∧
      child.position = .property property := by
  induction properties generalizing index with
  | nil => cases member
  | cons entry rest ih =>
    rcases List.mem_cons.mp member with rfl | later
    · exact ⟨entry.1, index, List.mem_cons_self, rfl, rfl⟩
    · obtain ⟨property, position, listed, same⟩ := ih later
      exact ⟨property, position, List.mem_cons_of_mem _ listed, same⟩

theorem mem_branchChildren {child : Child} {union : String} {index : Nat} {variants : List Schema}
    (member : child ∈ branchChildren union index variants) :
    child.node ∈ variants ∧ ∃ position, child.hop = .branch position ∧
      child.position = .branch union position := by
  induction variants generalizing index with
  | nil => cases member
  | cons node rest ih =>
    rcases List.mem_cons.mp member with rfl | later
    · exact ⟨List.mem_cons_self, index, rfl, rfl⟩
    · obtain ⟨listed, same⟩ := ih later
      exact ⟨List.mem_cons_of_mem _ listed, same⟩

namespace Schema

def children (name : String) : Schema → List Child
  | .object properties _ _ => propertyChildren 0 properties
  | .union variants _ => branchChildren name 1 variants
  | .array items _ => [⟨.item, .item name, items⟩]
  | _ => []

theorem child_smaller {name : String} {schema : Schema} {child : Child}
    (member : child ∈ schema.children name) : sizeOf child.node < sizeOf schema := by
  cases schema with
  | object properties required note =>
    obtain ⟨property, _, listed, _⟩ := mem_propertyChildren member
    have entry := List.sizeOf_lt_of_mem listed
    simp only [Prod.mk.sizeOf_spec] at entry
    simp only [Schema.object.sizeOf_spec]
    omega
  | union variants note =>
    obtain ⟨listed, _⟩ := mem_branchChildren member
    have entry := List.sizeOf_lt_of_mem listed
    simp only [Schema.union.sizeOf_spec]
    omega
  | array items note =>
    rw [List.mem_singleton.mp member]
    simp only [Schema.array.sizeOf_spec]
    omega
  | enumeration => cases member
  | reference => cases member
  | primitive => cases member

@[elab_as_elim]
theorem induction {motive : Schema → Prop}
    (step : ∀ schema, (∀ name, ∀ child ∈ schema.children name, motive child.node) → motive schema)
    (schema : Schema) : motive schema :=
  step schema fun _ child _ => induction step child.node
termination_by sizeOf schema
decreasing_by exact child_smaller ‹_›

end Schema

/-- A node inside a schema: the steps that lead to it, from the last to the first, the names that
are being declared around what is inside of it, its own name and its schema. -/
structure Occurrence where
  path : List Hop
  ancestry : List String
  name : String
  node : Schema

/-- The nodes of a schema that neither are cut nor lie in one that is, in the order in which they
are declared. -/
def Schema.occurrences (ancestry : List String) (name : String) (path : List Hop)
    (schema : Schema) : List Occurrence :=
  ⟨path, ancestry, name, schema⟩ :: (schema.children name).attach.flatMap fun ⟨child, _⟩ =>
    if child.position.Cuts child.node ancestry then []
    else child.node.occurrences (child.position.inside child.node ancestry)
      (child.position.title child.node) (child.hop :: path)
termination_by sizeOf schema
decreasing_by exact child_smaller ‹_›

def Child.occurrences (ancestry : List String) (path : List Hop) (child : Child) :
    List Occurrence :=
  if child.position.Cuts child.node ancestry then []
  else child.node.occurrences (child.position.inside child.node ancestry)
    (child.position.title child.node) (child.hop :: path)

theorem Schema.occurrences_eq (ancestry : List String) (name : String) (path : List Hop)
    (schema : Schema) :
    schema.occurrences ancestry name path = ⟨path, ancestry, name, schema⟩ ::
      (schema.children name).flatMap (Child.occurrences ancestry path) := by
  rw [occurrences, List.flatMap_subtype (g := Child.occurrences ancestry path) fun _ _ => rfl,
    List.unattach_attach]

namespace Workspace
variable {workspace : Workspace} {scope : Document} {s t u : Session} {calls : List Call}
variable {name : String} {result : Declaration} {ancestry : List String} {schema : Schema}

inductive DeclaresEach (workspace : Workspace) (scope : Document) (ancestry : List String) :
    List Child → Session → List Call → List Declaration → Session → Prop where
  | nil (s : Session) : DeclaresEach workspace scope ancestry [] s [] [] s
  | cons {child : Child} {children : List Child} {first second : List Call} {part : Declaration}
    {parts : List Declaration} {s t u : Session}
    (one : workspace.Follows (child.position.declare workspace scope ancestry child.node) s first
      (.done part) u)
    (others : DeclaresEach workspace scope ancestry children u second parts t) :
    DeclaresEach workspace scope ancestry (child :: children) s (first ++ second) (part :: parts) t

theorem each_follows {children : List Child} {parts : List Declaration}
    (each : workspace.DeclaresEach scope ancestry children s calls parts t) :
    ∀ part ∈ children.zip parts, ∃ s own t, own ⊆ calls ∧
      workspace.Follows (part.1.position.declare workspace scope ancestry part.1.node) s own
        (.done part.2) t := by
  induction each with
  | nil => exact nofun
  | cons one _ ih =>
    refine List.forall_mem_cons.mpr ⟨⟨_, _, _, List.subset_append_left _ _, one⟩, ?_⟩
    intro part member
    obtain ⟨s, own, t, inside, follows⟩ := ih part member
    exact ⟨s, own, t, List.subset_append_of_subset_right _ inside, follows⟩

/-- What a schema called `name` is declared as when the nodes directly inside are declared as
these. -/
inductive Assembles (workspace : Workspace) (name : String) :
    Schema → List Declaration → Declaration → Prop where
  | object {properties : List (String × Schema)} {required : List String} {note : Annotation}
    {members : List Member} {parts : List Declaration} {input : ObjectInput} {own : String}
    (listed : properties = members.map fun member => (member.name, member.schema))
    (made : parts = members.map Member.declaration)
    (isInput : input = ⟨name, name, members.map (Member.property required), note⟩)
    (rendered : workspace.renderer.object input = .ok own) :
    Assembles workspace name (.object properties required note) parts
      { content := own ++ joinContents ((members.filter Member.isNested).map Member.declaration) ++
          joinContents ((members.filter Member.isEnumeration).map Member.declaration)
        references := unionOf (parts.map Declaration.references)
        primitives := unionOf (parts.map Declaration.primitives)
        input := .object input }
  | enumeration {type : DataType} {values : List Literal} {note : Annotation} {input : EnumInput}
    {own : String} (isInput : input = ⟨name, name, type.name, values, note⟩)
    (rendered : workspace.renderer.enumeration input = .ok own) :
    Assembles workspace name (.enumeration type values note) [] ⟨own, ∅, ∅, .enumeration input⟩
  | union {variants : List Schema} {note : Annotation} {branches : List Branch}
    {parts : List Declaration} {input : UnionInput TemplateInput} {own : String}
    (listed : variants = branches.map Branch.schema)
    (made : parts = branches.map Branch.declaration)
    (isInput : input = ⟨name, name, branches.map Branch.composition, note⟩)
    (rendered : workspace.renderer.union input = .ok own) :
    Assembles workspace name (.union variants note) parts
      { content := own ++ String.join (branches.map Branch.content)
        references := unionOf (branches.map Branch.references)
        primitives := unionOf (branches.map Branch.primitives)
        input := .union input }
  | array {items : Schema} {note : Annotation} {item : Declaration} {type : String}
    (filled : workspace.tokens.array (itemText items item.input) = .ok type) :
    Assembles workspace name (.array items note) [item]
      { content := if items.isReference then "" else item.content
        references := item.references
        primitives := item.primitives.insert arrayMarker
        input := .plain ⟨name, type, some (itemText items item.input), note⟩ }
  | primitive {type : DataType} {format : Option String} {note : Annotation} {token : String}
    (isToken : workspace.tokens.primitive type format = .ok token) :
    Assembles workspace name (.primitive type format note) []
      ⟨"", ∅, NameSet.ofList [token], .plain ⟨name, token, none, note⟩⟩

theorem declareProperties_each {properties : List (String × Schema)} {members : List Member}
    (index : Nat)
    (follows : workspace.Follows (workspace.declareProperties scope ancestry properties) s calls
      (.done members) t) :
    properties = members.map (fun member => (member.name, member.schema)) ∧
      workspace.DeclaresEach scope ancestry (propertyChildren index properties) s calls
        (members.map Member.declaration) t := by
  induction properties generalizing s calls members index with
  | nil =>
    obtain ⟨rfl, rfl, rfl⟩ := follows_done follows
    exact ⟨rfl, .nil _⟩
  | cons entry rest ih =>
    obtain ⟨property, node⟩ := entry
    rw [declareProperties_cons] at follows
    obtain ⟨part, first, _, u, rfl, one, later⟩ := follows_bind_done follows
    obtain ⟨tail, second, _, v, rfl, more, done⟩ := follows_bind_done later
    obtain ⟨rfl, rfl, rfl⟩ := follows_done done
    obtain ⟨same, others⟩ := ih (index + 1) more
    rw [List.append_nil]
    exact ⟨congrArg (List.cons (property, node)) same, .cons one others⟩

theorem declareVariants_each {union : String} {variants : List Schema} {branches : List Branch}
    {index : Nat}
    (follows : workspace.Follows (workspace.declareVariants scope ancestry union index variants) s
      calls (.done branches) t) :
    variants = branches.map Branch.schema ∧
      workspace.DeclaresEach scope ancestry (branchChildren union index variants) s calls
        (branches.map Branch.declaration) t := by
  induction variants generalizing s calls branches index with
  | nil =>
    obtain ⟨rfl, rfl, rfl⟩ := follows_done follows
    exact ⟨rfl, .nil _⟩
  | cons node rest ih =>
    rw [declareVariants_cons] at follows
    obtain ⟨part, first, _, u, rfl, one, later⟩ := follows_bind_done follows
    obtain ⟨tail, second, _, v, rfl, more, done⟩ := follows_bind_done later
    obtain ⟨rfl, rfl, rfl⟩ := follows_done done
    obtain ⟨same, others⟩ := ih more
    rw [List.append_nil]
    exact ⟨congrArg (List.cons node) same, .cons one others⟩

theorem declareNode_assembles (notReference : schema.isReference = false)
    (follows : workspace.Follows (workspace.declareNode scope ancestry name schema) s calls
      (.done result) t) :
    ∃ parts u, workspace.DeclaresEach scope ancestry (schema.children name) s calls parts u ∧
      workspace.Assembles name schema parts result := by
  cases schema with
  | object properties required note =>
    obtain ⟨members, first, _, u, rfl, inner, own⟩ := follows_bind_done follows
    obtain ⟨text, rendered, rfl, rfl⟩ := follows_declareObject own
    obtain ⟨listed, each⟩ := declareProperties_each 0 inner
    rw [List.append_nil]
    exact ⟨_, u, each, .object listed rfl rfl rendered⟩
  | enumeration type values note =>
    obtain ⟨text, rendered, rfl, rfl⟩ := follows_declareEnumeration follows
    exact ⟨[], s, .nil s, .enumeration rfl rendered⟩
  | union variants note =>
    obtain ⟨branches, first, _, u, rfl, inner, own⟩ := follows_bind_done follows
    obtain ⟨text, rendered, rfl, rfl⟩ := follows_declareUnion own
    obtain ⟨listed, each⟩ := declareVariants_each inner
    rw [List.append_nil]
    exact ⟨_, u, each, .union listed rfl rfl rendered⟩
  | array items note =>
    rw [declareNode_array] at follows
    obtain ⟨item, first, _, u, rfl, inner, own⟩ := follows_bind_done follows
    obtain ⟨type, filled, rfl, rfl⟩ := follows_declareArray own
    exact ⟨[item], u, .cons inner (.nil u), .array filled⟩
  | reference => cases notReference
  | primitive type format note =>
    obtain ⟨token, isToken, rfl, rfl⟩ := follows_declarePrimitive follows
    exact ⟨[], s, .nil s, .primitive isToken⟩

theorem follows_position {position : Position} {node : Schema}
    (follows : workspace.Follows (position.declare workspace scope ancestry node) s calls
      (.done result) t) :
    (position.Cuts node ancestry ∧ calls = [] ∧ result = .pending (position.title node)) ∨
      (¬position.Cuts node ancestry ∧
        workspace.Follows (workspace.declareNode scope (position.inside node ancestry)
          (position.title node) node) s calls (.done result) t) := by
  rw [Position.declare_eq] at follows
  split at follows
  · next cuts =>
    obtain ⟨none, same, _⟩ := follows_done follows
    exact .inl ⟨cuts, none, same⟩
  · next uncut => exact .inr ⟨uncut, follows⟩

theorem follows_declareUnder
    (follows : workspace.Follows (workspace.declareUnder scope ancestry name schema) s calls
      (.done result) t) :
    (name ∈ ancestry ∧ calls = [] ∧ result = .pending name) ∨
      (name ∉ ancestry ∧ workspace.Follows
        (workspace.declareNode scope (name :: ancestry) name schema) s calls (.done result) t) :=
  follows_unlessOpen follows

end Workspace

end Typewright
