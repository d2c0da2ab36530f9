import Mathlib.Data.List.Infix
import Mathlib.Data.List.Nodup
import Typewright.Resolution

/-!
The nodes of a schema that are declared in the text of its type, in the order of the text: each with
the steps that lead to it and the name that it is given. Names come from property names alone, so
different nodes can have the same name; a node only has the name of one around it if it is a union
that is a property, since all others are cut there.
-/
namespace Typewright

def Renderer.text (renderer : Renderer) : TemplateInput → Except Failure String
  | .object input => renderer.object input
  | .enumeration input => renderer.enumeration input
  | .union input => renderer.union input
  | .plain _ => .ok ""

def TemplateInput.kind? : TemplateInput → Option DeclarationKind
  | .object _ => some .object
  | .enumeration _ => some .enumeration
  | .union _ => some .union
  | .plain _ => none

inductive Hop where
  | property (position : Nat)
  | branch (position : Nat)
  | item
deriving DecidableEq

/-- A declared node. The steps that lead to it are listed from the last to the first. -/
structure InlineNode where
  path : List Hop
  kind : DeclarationKind
  name : String

def InlineNode.IsOf (node : InlineNode) (input : TemplateInput) : Prop :=
  input.kind? = some node.kind ∧ input.name = node.name

structure Part where
  hop : Hop
  isEnumeration : Bool
  nodes : List InlineNode

/-- The enumerations of an object come after its other properties. -/
def arranged (parts : List Part) : List Part :=
  parts.filter (fun part => !part.isEnumeration) ++ parts.filter Part.isEnumeration

namespace Schema

def kind? : Schema → Option DeclarationKind
  | .object .. => some .object
  | .enumeration .. => some .enumeration
  | .union .. => some .union
  | _ => none

def nameFor (property : String) : Schema → String
  | .object .. => Workspace.propertyTypeName property
  | .enumeration .. => Workspace.enumTypeName property
  | .union .. => Workspace.propertyTypeName property
  | _ => property

def ownNode (path : List Hop) (name : String) (schema : Schema) : List InlineNode :=
  schema.kind?.toList.map fun kind => ⟨path, kind, name⟩

/-- A node is cut at a name that is being declared around it. -/
def unlessCut (ancestry : List String) (name : String) (nodes : List InlineNode) :
    List InlineNode :=
  if name ∈ ancestry then [] else nodes

def propertyNodes (ancestry : List String) (property : String)
    (nodes : List String → String → List InlineNode) : Schema → List InlineNode
  | .object .. =>
    let name := Workspace.propertyTypeName property
    unlessCut ancestry name (nodes (name :: ancestry) name)
  | .enumeration .. =>
    let name := Workspace.enumTypeName property
    unlessCut ancestry name (nodes (name :: ancestry) name)
  | .union .. =>
    let name := Workspace.propertyTypeName property
    nodes (name :: ancestry) name
  | _ => nodes ancestry property

mutual

def innerNodes (ancestry : List String) (name : String) (path : List Hop) :
    Schema → List InlineNode
  | .object properties _ _ =>
    (arranged (propertyParts ancestry path 0 properties)).flatMap Part.nodes
  | .enumeration .. => []
  | .union variants _ => (variantParts ancestry name path 1 variants).flatMap Part.nodes
  | .array items _ =>
    let itemName := Workspace.itemTypeName name
    unlessCut ancestry itemName (ownNode (.item :: path) itemName items ++
      innerNodes (itemName :: ancestry) itemName (.item :: path) items)
  | .reference .. => []
  | .primitive .. => []

def propertyParts (ancestry : List String) (path : List Hop) (position : Nat) :
    List (String × Schema) → List Part
  | [] => []
  | (property, schema) :: rest =>
    { hop := .property position
      isEnumeration := schema.kind? == some .enumeration
      nodes := propertyNodes ancestry property (fun around name =>
        ownNode (.property position :: path) name schema ++
          innerNodes around name (.property position :: path) schema) schema } ::
      propertyParts ancestry path (position + 1) rest

def variantParts (ancestry : List String) (union : String) (path : List Hop) (position : Nat) :
    List Schema → List Part
  | [] => []
  | schema :: rest =>
    let name := Workspace.branchTypeName union position
    { hop := .branch position
      isEnumeration := false
      nodes := unlessCut ancestry name (ownNode (.branch position :: path) name schema ++
        innerNodes (name :: ancestry) name (.branch position :: path) schema) } ::
      variantParts ancestry union path (position + 1) rest

end

def nodes (ancestry : List String) (name : String) (path : List Hop) (schema : Schema) :
    List InlineNode :=
  ownNode path name schema ++ innerNodes ancestry name path schema

end Schema

namespace InlineNode

def IsUnionProperty (node : InlineNode) : Prop :=
  node.kind = .union ∧ ∃ position rest, node.path = .property position :: rest

/-- The second node neither is the first nor lies around it. If it lies inside, it has another name
unless it is a union that is a property. -/
def Precedes (a b : InlineNode) : Prop :=
  ¬b.path <:+ a.path ∧ (a.path <:+ b.path → a.name = b.name → b.IsUnionProperty)

end InlineNode

structure Placed (ancestry : List String) (path : List Hop) (nodes : List InlineNode) : Prop where
  below : ∀ node ∈ nodes, path <:+ node.path
  guarded : ∀ node ∈ nodes, node.name ∈ ancestry → node.IsUnionProperty
  ordered : nodes.Pairwise InlineNode.Precedes

structure Nested (ancestry : List String) (path : List Hop) (nodes : List InlineNode) : Prop
    extends Placed ancestry path nodes where
  inside : ∀ node ∈ nodes, ∃ hop, hop :: path <:+ node.path

theorem nested_nil (ancestry : List String) (path : List Hop) : Nested ancestry path [] := by
  refine ⟨⟨?_, ?_, List.Pairwise.nil⟩, ?_⟩ <;> simp

theorem placed_mono {ancestry around : List String} {path : List Hop} {nodes : List InlineNode}
    (grows : ∀ name ∈ ancestry, name ∈ around) (placed : Placed around path nodes) :
    Placed ancestry path nodes :=
  ⟨placed.below, fun node member named => placed.guarded node member (grows _ named),
    placed.ordered⟩

theorem nested_item {ancestry : List String} {path : List Hop} {hop : Hop}
    {nodes : List InlineNode} (placed : Placed ancestry (hop :: path) nodes) :
    Nested ancestry path nodes where
  below := fun node member => (List.suffix_cons hop path).trans (placed.below node member)
  guarded := placed.guarded
  ordered := placed.ordered
  inside := fun node member => ⟨hop, placed.below node member⟩

theorem placed_unlessCut {ancestry : List String} {name : String} {path : List Hop}
    {nodes : List InlineNode} (placed : name ∉ ancestry → Placed ancestry path nodes) :
    Placed ancestry path (Schema.unlessCut ancestry name nodes) := by
  unfold Schema.unlessCut
  split
  · exact (nested_nil ancestry path).toPlaced
  · next free => exact placed free

theorem placed_cons {ancestry around : List String} {path : List Hop} {node : InlineNode}
    {nodes : List InlineNode} (isHere : node.path = path) (named : node.name ∈ around)
    (grows : ∀ name ∈ ancestry, name ∈ around)
    (free : node.name ∈ ancestry → node.IsUnionProperty) (nested : Nested around path nodes) :
    Placed ancestry path (node :: nodes) := by
  constructor
  · intro other member
    rcases List.mem_cons.mp member with rfl | inner
    · rw [isHere]
    · exact nested.below other inner
  · intro other member taken
    rcases List.mem_cons.mp member with rfl | inner
    · exact free taken
    · exact nested.guarded other inner (grows _ taken)
  · refine List.pairwise_cons.mpr ⟨?_, nested.ordered⟩
    intro other member
    constructor
    · intro around
      obtain ⟨hop, inside⟩ := nested.inside other member
      have longer := inside.length_le
      have shorter := around.length_le
      rw [isHere] at shorter
      simp only [List.length_cons] at longer
      omega
    · intro _ same
      exact nested.guarded other member (same ▸ named)

theorem hop_of_suffix {path other : List Hop} {a b : Hop} (first : a :: path <:+ other)
    (second : b :: path <:+ other) : a = b := by
  have same : a :: path = b :: path := by
    apply List.IsSuffix.eq_of_length
    · exact List.suffix_of_suffix_length_le first second (by simp)
    · simp
  exact (List.cons.inj same).1

theorem precedes_of_hops {path : List Hop} {first second : Hop} {a b : InlineNode}
    (isA : first :: path <:+ a.path) (isB : second :: path <:+ b.path)
    (apart : first ≠ second) : a.Precedes b :=
  ⟨fun around => absurd (hop_of_suffix isA (isB.trans around)) apart,
    fun around => absurd (hop_of_suffix (isA.trans around) isB) apart⟩

theorem nested_of_parts {ancestry : List String} {path : List Hop} {parts : List Part}
    (placed : ∀ part ∈ parts, Placed ancestry (part.hop :: path) part.nodes)
    (apart : (parts.map Part.hop).Nodup) : Nested ancestry path (parts.flatMap Part.nodes) := by
  have inside : ∀ node ∈ parts.flatMap Part.nodes, ∃ hop, hop :: path <:+ node.path := by
    intro node member
    obtain ⟨part, isPart, inner⟩ := List.mem_flatMap.mp member
    exact ⟨part.hop, (placed part isPart).below node inner⟩
  refine ⟨⟨?_, ?_, ?_⟩, inside⟩
  · intro node member
    obtain ⟨hop, below⟩ := inside node member
    exact (List.suffix_cons hop path).trans below
  · intro node member
    obtain ⟨part, isPart, inner⟩ := List.mem_flatMap.mp member
    exact (placed part isPart).guarded node inner
  · rw [List.pairwise_flatMap]
    refine ⟨fun part isPart => (placed part isPart).ordered, ?_⟩
    have different : parts.Pairwise fun first second => first.hop ≠ second.hop :=
      List.pairwise_map.mp apart
    refine different.imp_of_mem ?_
    intro first second isFirst isSecond hops a isA b isB
    exact precedes_of_hops ((placed first isFirst).below a isA)
      ((placed second isSecond).below b isB) hops

theorem arranged_perm (parts : List Part) : (arranged parts).Perm parts := by
  have perm := List.filter_append_perm (fun part : Part => !part.isEnumeration) parts
  simpa [arranged] using perm

namespace Schema

theorem propertyParts_hops (ancestry : List String) (path : List Hop) (position : Nat)
    (properties : List (String × Schema)) :
    (propertyParts ancestry path position properties).map Part.hop =
      (List.range' position properties.length).map .property := by
  induction properties generalizing position with
  | nil => simp [propertyParts]
  | cons first rest ih => simp [propertyParts, ih, List.range'_succ]

theorem variantParts_hops (ancestry : List String) (union : String) (path : List Hop)
    (position : Nat) (variants : List Schema) :
    (variantParts ancestry union path position variants).map Part.hop =
      (List.range' position variants.length).map .branch := by
  induction variants generalizing position with
  | nil => simp [variantParts]
  | cons first rest ih => simp [variantParts, ih, List.range'_succ]

theorem innerNodes_array (items : Schema) (note : Annotation) (ancestry : List String)
    (name : String) (path : List Hop) :
    (array items note).innerNodes ancestry name path =
      unlessCut ancestry (Workspace.itemTypeName name)
        (items.nodes (Workspace.itemTypeName name :: ancestry) (Workspace.itemTypeName name)
          (.item :: path)) := by
  simp only [innerNodes, nodes]

section Placing
variable {ancestry around : List String} {name : String} {path : List Hop} {schema : Schema}

theorem nodes_plain (plain : schema.kind? = none) :
    schema.nodes ancestry name path = schema.innerNodes ancestry name path := by
  simp [nodes, ownNode, plain]

theorem nodes_kind {kind : DeclarationKind} (isKind : schema.kind? = some kind) :
    schema.nodes ancestry name path =
      ⟨path, kind, name⟩ :: schema.innerNodes ancestry name path := by
  simp [nodes, ownNode, isKind]

theorem nodes_placed
    (free : name ∈ ancestry → ∀ kind, schema.kind? = some kind →
      (⟨path, kind, name⟩ : InlineNode).IsUnionProperty)
    (nested : Nested (name :: ancestry) path (schema.innerNodes (name :: ancestry) name path)) :
    Placed ancestry path (schema.nodes (name :: ancestry) name path) := by
  have grows : ∀ other ∈ ancestry, other ∈ name :: ancestry := fun other =>
    List.mem_cons_of_mem name
  cases isKind : schema.kind? with
  | none =>
    rw [nodes_plain isKind]
    exact placed_mono grows nested.toPlaced
  | some kind =>
    rw [nodes_kind isKind]
    exact placed_cons rfl List.mem_cons_self grows (fun taken => free taken kind isKind) nested

theorem nodes_unlessCut
    (nested : Nested (name :: ancestry) path (schema.innerNodes (name :: ancestry) name path)) :
    Placed ancestry path
      (unlessCut ancestry name (schema.nodes (name :: ancestry) name path)) := by
  apply placed_unlessCut
  intro fresh
  exact nodes_placed (fun taken => absurd taken fresh) nested

theorem propertyNodes_placed (property : String) {position : Nat} {rest : List Hop}
    (isPath : path = .property position :: rest)
    (nested : ∀ around name, Nested around path (schema.innerNodes around name path)) :
    Placed ancestry path
      (propertyNodes ancestry property (fun around name => schema.nodes around name path)
        schema) := by
  cases schema with
  | object => exact nodes_unlessCut (nested _ _)
  | enumeration => exact nodes_unlessCut (nested _ _)
  | union =>
    refine nodes_placed (fun _ kind isKind => ?_) (nested _ _)
    cases isKind
    exact ⟨rfl, position, rest, isPath⟩
  | array => exact (nested _ _).toPlaced
  | reference => exact (nested ancestry property).toPlaced
  | primitive => exact (nested ancestry property).toPlaced

end Placing

mutual

theorem innerNodes_nested : (schema : Schema) → (ancestry : List String) → (name : String) →
    (path : List Hop) → Nested ancestry path (schema.innerNodes ancestry name path)
  | .object properties _ _, ancestry, name, path => by
    have placed := propertyParts_placed properties ancestry path 0
    -- arranging moves parts about, but they still lie below different steps
    have perm := arranged_perm (propertyParts ancestry path 0 properties)
    have apart : ((propertyParts ancestry path 0 properties).map Part.hop).Nodup := by
      rw [propertyParts_hops]
      exact List.Nodup.map (fun a b same => Hop.property.inj same) List.nodup_range'
    exact nested_of_parts (fun part member => placed part (perm.mem_iff.mp member))
      ((perm.map Part.hop).nodup_iff.mpr apart)
  | .enumeration .., ancestry, _, path => nested_nil ancestry path
  | .union variants _, ancestry, name, path => by
    have placed := variantParts_placed variants ancestry name path 1
    have apart : ((variantParts ancestry name path 1 variants).map Part.hop).Nodup := by
      rw [variantParts_hops]
      exact List.Nodup.map (fun a b same => Hop.branch.inj same) List.nodup_range'
    exact nested_of_parts placed apart
  | .array items _, ancestry, name, path =>
    nested_item (nodes_unlessCut (innerNodes_nested items _ _ (.item :: path)))
  | .reference .., ancestry, _, path => nested_nil ancestry path
  | .primitive .., ancestry, _, path => nested_nil ancestry path

theorem propertyParts_placed : (properties : List (String × Schema)) → (ancestry : List String) →
    (path : List Hop) → (position : Nat) →
    ∀ part ∈ propertyParts ancestry path position properties,
      Placed ancestry (part.hop :: path) part.nodes
  | [], _, _, _ => nofun
  | (property, schema) :: rest, ancestry, path, position => by
    intro part member
    -- for every name, since the kind of the schema decides how the property is called
    have inner (around : List String) (name : String) :=
      innerNodes_nested schema around name (.property position :: path)
    rcases List.mem_cons.mp member with rfl | later
    · exact propertyNodes_placed property rfl inner
    · exact propertyParts_placed rest ancestry path (position + 1) part later

theorem variantParts_placed : (variants : List Schema) → (ancestry : List String) →
    (owner : String) → (path : List Hop) → (position : Nat) →
    ∀ part ∈ variantParts ancestry owner path position variants,
      Placed ancestry (part.hop :: path) part.nodes
  | [], _, _, _, _ => nofun
  | schema :: rest, ancestry, owner, path, position => by
    intro part member
    have inner (around : List String) (name : String) :=
      innerNodes_nested schema around name (.branch position :: path)
    rcases List.mem_cons.mp member with rfl | later
    · exact nodes_unlessCut (inner _ _)
    · exact variantParts_placed rest ancestry owner path (position + 1) part later

end

end Schema

/-- No node is declared twice, and of two nodes of one name that lie in each other the inner one is
a union that is a property. -/
structure NodesApart (nodes : List InlineNode) : Prop where
  once : (nodes.map InlineNode.path).Nodup
  inside : ∀ a ∈ nodes, ∀ b ∈ nodes, a ≠ b → a.path <:+ b.path → a.name = b.name →
    b.IsUnionProperty

theorem nodesApart_of_ordered {nodes : List InlineNode}
    (ordered : nodes.Pairwise InlineNode.Precedes) : NodesApart nodes := by
  constructor
  · apply List.pairwise_map.mpr
    refine ordered.imp ?_
    intro a b precedes same
    exact precedes.1 (same ▸ List.suffix_rfl)
  · induction ordered with
    | nil => simp
    | @cons first rest before _ ih =>
      intro a isA b isB different around same
      rcases List.mem_cons.mp isA with rfl | laterA
      · rcases List.mem_cons.mp isB with rfl | laterB
        · exact absurd rfl different
        · exact (before b laterB).2 around same
      · rcases List.mem_cons.mp isB with rfl | laterB
        · exact absurd around (before a laterA).1
        · exact ih a laterA b laterB different around same

def Schema.typeNodes (name : String) (schema : Schema) : List InlineNode :=
  schema.nodes [name] name []

theorem typeNodes_apart (name : String) (schema : Schema) : NodesApart (schema.typeNodes name) := by
  have nested := schema.innerNodes_nested [name] name []
  have placed : Placed [] [] (schema.nodes [name] name []) :=
    Schema.nodes_placed (fun taken => absurd taken List.not_mem_nil) nested
  exact nodesApart_of_ordered placed.ordered

end Typewright
