import Typewright.Proofs.MirroredInputs

/-!
The text of a declaration, by the nodes inside of its schema. After its own text come those of what
is declared directly inside of it, in order, and so on inside of these. What is cut adds nothing,
and neither does what a reference leads to, of which only the name is written and the type of its
items.
-/
namespace Typewright

namespace Schema

def isNested : Schema → Bool
  | .object .. => true
  | .union .. => true
  | .array .. => true
  | _ => false

def isEnumeration : Schema → Bool
  | .enumeration .. => true
  | _ => false

def isInline (schema : Schema) : Bool := !schema.isReference

end Schema

def contentsOf (keep : Schema → Bool) (parts : List (Child × Declaration)) : String :=
  joinContents ((parts.filter fun part => keep part.1.node).map Prod.snd)

theorem contentsOf_cons (keep : Schema → Bool) (part : Child × Declaration)
    (rest : List (Child × Declaration)) :
    contentsOf keep (part :: rest) =
      (if keep part.1.node then part.2.content else "") ++ contentsOf keep rest := by
  unfold contentsOf
  cases kept : keep part.1.node <;> simp [kept, Workspace.joinContents_cons]

def Schema.arrange (own : String) (parts : List (Child × Declaration)) : Schema → String
  | .object .. => own ++ contentsOf isNested parts ++ contentsOf isEnumeration parts
  | _ => own ++ contentsOf isInline parts

theorem contentsOf_members (keep : Schema → Bool) (index : Nat) (members : List Member) :
    contentsOf keep ((propertyChildren index
        (members.map fun member => (member.name, member.schema))).zip
        (members.map Member.declaration)) =
      joinContents ((members.filter fun member => keep member.schema).map Member.declaration) := by
  induction members generalizing index with
  | nil => rfl
  | cons member rest ih =>
    simp only [List.map_cons, propertyChildren, List.zip_cons_cons, contentsOf_cons, ih]
    cases kept : keep member.schema <;> simp [kept, Workspace.joinContents_cons]

theorem contentsOf_branches (union : String) (index : Nat) (branches : List Branch) :
    contentsOf Schema.isInline ((branchChildren union index (branches.map Branch.schema)).zip
        (branches.map Branch.declaration)) =
      String.join (branches.map Branch.content) := by
  induction branches generalizing index with
  | nil => rfl
  | cons branch rest ih =>
    simp only [List.map_cons, branchChildren, List.zip_cons_cons, contentsOf_cons, ih,
      String.join_cons]
    cases isReference : branch.schema.isReference <;>
      simp [Schema.isInline, Branch.content, isReference]

theorem isNested_member : Member.isNested = fun member => member.schema.isNested := rfl

theorem isEnumeration_member : Member.isEnumeration = fun member => member.schema.isEnumeration :=
  rfl

namespace Workspace

/-- The text of a schema's declaration, begun in `s` and with references answered by `calls`, is
that rendered from its input, followed by the texts of what the nodes inside are declared as one
after the other. A node that is cut has none, and a reference need not have any. -/
inductive Spelled (workspace : Workspace) (scope : Document) :
    List String → String → Schema → Session → List Call → Declaration → Prop where
  | intro {ancestry : List String} {name : String} {schema : Schema} {s t : Session}
    {calls : List Call} {result : Declaration} {parts : List Declaration} {own : String}
    (each : workspace.DeclaresEach scope ancestry (schema.children name) s calls parts t)
    (isKind : result.input.kind? = schema.kind?) (named : result.input.name = name)
    (rendered : workspace.renderer.text result.input = .ok own)
    (content : result.content = schema.arrange own ((schema.children name).zip parts))
    (cut : ∀ part ∈ (schema.children name).zip parts,
      part.1.position.Cuts part.1.node ancestry → part.2.content = "")
    (inside : ∀ part ∈ (schema.children name).zip parts,
      ¬part.1.position.Cuts part.1.node ancestry → part.1.node.isReference = false →
      ∀ u more v, workspace.Follows
          (part.1.position.declare workspace scope ancestry part.1.node) u more (.done part.2) v →
        Spelled workspace scope (part.1.position.inside part.1.node ancestry)
          (part.1.position.title part.1.node) part.1.node u more part.2) :
    Spelled workspace scope ancestry name schema s calls result

variable {workspace : Workspace} {scope : Document} {s t u : Session} {calls more : List Call}
variable {name : String} {result : Declaration} {ancestry : List String} {schema node : Schema}

theorem assembles_content {parts : List Declaration}
    (assembles : workspace.Assembles name schema parts result) :
    result.input.kind? = schema.kind? ∧ result.input.name = name ∧
      ∃ own, workspace.renderer.text result.input = .ok own ∧
        result.content = schema.arrange own ((schema.children name).zip parts) := by
  cases assembles with
  | object listed made isInput rendered =>
    subst listed made isInput
    refine ⟨rfl, rfl, _, rendered, ?_⟩
    simp only [Schema.arrange, Schema.children, contentsOf_members, isNested_member,
      isEnumeration_member]
  | enumeration isInput rendered =>
    subst isInput
    exact ⟨rfl, rfl, _, rendered, String.append_empty.symm⟩
  | union listed made isInput rendered =>
    subst listed made isInput
    refine ⟨rfl, rfl, _, rendered, ?_⟩
    simp only [Schema.arrange, Schema.children, contentsOf_branches]
  | @array items _ item =>
    refine ⟨rfl, rfl, "", rfl, ?_⟩
    cases isReference : items.isReference <;>
      simp [Schema.arrange, Schema.children, contentsOf, Schema.isInline, isReference,
        joinContents]
  | primitive => exact ⟨rfl, rfl, "", rfl, rfl⟩

theorem declareNode_spelled (notReference : schema.isReference = false)
    (follows : workspace.Follows (workspace.declareNode scope ancestry name schema) s calls
      (.done result) t) : workspace.Spelled scope ancestry name schema s calls result := by
  induction schema using Schema.induction generalizing ancestry name s t calls result with
  | step schema ih =>
    obtain ⟨parts, u, each, assembles⟩ := declareNode_assembles notReference follows
    obtain ⟨isKind, named, own, rendered, content⟩ := assembles_content assembles
    refine .intro each isKind named rendered content ?_ ?_
    · intro part member cuts
      obtain ⟨s, _, t, _, one⟩ := each_follows each part member
      rcases follows_position one with ⟨_, _, same⟩ | ⟨uncut, _⟩
      · rw [same]
        rfl
      · exact absurd cuts uncut
    · intro part member uncut inline u more v one
      rcases follows_position one with ⟨cuts, _⟩ | ⟨_, inner⟩
      · exact absurd cuts uncut
      · exact ih name part.1 (List.of_mem_zip member).1 inline inner

end Workspace

/-! The declared nodes -/

def Occurrence.declared? (occurrence : Occurrence) : Option InlineNode :=
  occurrence.node.kind?.map fun kind => ⟨occurrence.path, kind, occurrence.name⟩

def Child.nodes (ancestry : List String) (path : List Hop) (child : Child) : List InlineNode :=
  if child.position.Cuts child.node ancestry then []
  else child.node.nodes (child.position.inside child.node ancestry)
    (child.position.title child.node) (child.hop :: path)

namespace Schema
open Workspace

theorem propertyNodes_child (ancestry : List String) (path : List Hop) (index : Nat)
    (property : String) (node : Schema) :
    propertyNodes ancestry property (fun around name =>
        ownNode (.property index :: path) name node ++
          node.innerNodes around name (.property index :: path)) node =
      Child.nodes ancestry path ⟨.property index, .property property, node⟩ := by
  cases node <;> simp [propertyNodes, unlessCut, Child.nodes, nodes, Position.Cuts,
    Position.isExposed, Position.inside, Position.isEntered, Position.title, nameFor, kind?]

theorem branchNodes_child (ancestry : List String) (union : String) (path : List Hop) (index : Nat)
    (node : Schema) :
    unlessCut ancestry (branchTypeName union index)
        (node.nodes (branchTypeName union index :: ancestry) (branchTypeName union index)
          (.branch index :: path)) =
      Child.nodes ancestry path ⟨.branch index, .branch union index, node⟩ := by
  cases isReference : node.isReference <;> simp [unlessCut, Child.nodes, Position.Cuts,
    Position.isExposed, Position.inside, Position.isEntered, Position.title, isReference,
    nodes_reference]

theorem propertyParts_nodes (ancestry : List String) (path : List Hop) (index : Nat)
    (properties : List (String × Schema)) :
    (propertyParts ancestry path index properties).flatMap Part.nodes =
      (propertyChildren index properties).flatMap (Child.nodes ancestry path) := by
  induction properties generalizing index with
  | nil => simp [propertyParts, propertyChildren]
  | cons entry rest ih =>
    simp only [propertyParts, propertyChildren, List.flatMap_cons, ih, propertyNodes_child]

theorem variantParts_nodes (ancestry : List String) (union : String) (path : List Hop)
    (index : Nat) (variants : List Schema) :
    (variantParts ancestry union path index variants).flatMap Part.nodes =
      (branchChildren union index variants).flatMap (Child.nodes ancestry path) := by
  induction variants generalizing index with
  | nil => simp [variantParts, branchChildren]
  | cons node rest ih =>
    have here := branchNodes_child ancestry union path index node
    unfold nodes at here
    simp only [variantParts, branchChildren, List.flatMap_cons, ih, here]

theorem innerNodes_perm (ancestry : List String) (name : String) (path : List Hop)
    (schema : Schema) :
    (schema.innerNodes ancestry name path).Perm
      ((schema.children name).flatMap (Child.nodes ancestry path)) := by
  cases schema with
  | object properties required note =>
    have perm := (arranged_perm (propertyParts ancestry path 0 properties)).flatMap_right Part.nodes
    rw [propertyParts_nodes] at perm
    simpa only [innerNodes, children] using perm
  | union variants note =>
    simp only [innerNodes, variantParts_nodes, children]
    exact .refl _
  | array items note =>
    rw [innerNodes_array]
    simp [children, Child.nodes, unlessCut, Position.Cuts, Position.isExposed, Position.inside,
      Position.isEntered, Position.title]
  | enumeration => simp [innerNodes, children]
  | reference => simp [innerNodes, children]
  | primitive => simp [innerNodes, children]

theorem nodes_perm (ancestry : List String) (name : String) (path : List Hop) (schema : Schema) :
    (schema.nodes ancestry name path).Perm
      ((schema.occurrences ancestry name path).filterMap Occurrence.declared?) := by
  induction schema using Schema.induction generalizing ancestry name path with
  | step schema ih =>
    have inner : ((schema.children name).flatMap (Child.nodes ancestry path)).Perm
        (((schema.children name).flatMap (Child.occurrences ancestry path)).filterMap
          Occurrence.declared?) := by
      rw [List.filterMap_flatMap]
      apply List.Perm.flatMap_left
      intro child member
      unfold Child.nodes Child.occurrences
      split
      · exact .refl _
      · exact ih name child member _ _ _
    rw [occurrences_eq]
    unfold nodes ownNode
    have perm := (innerNodes_perm ancestry name path schema).trans inner
    cases isKind : schema.kind? <;> simpa [Occurrence.declared?, isKind] using perm

end Schema

/-! What is taken from answers -/

structure Call.Resembles (a b : Call) : Prop where
  name : a.answer.name = b.answer.name
  items : a.answer.input.itemType? = b.answer.input.itemType?

structure Declaration.Coincides (node : Schema) (a b : Declaration) : Prop where
  name : a.name = b.name
  items : a.input.itemType? = b.input.itemType?
  inline : node.isReference = false → a.input = b.input ∧ a.content = b.content

theorem coincides_refl (node : Schema) (declaration : Declaration) :
    declaration.Coincides node declaration :=
  ⟨rfl, rfl, fun _ => ⟨rfl, rfl⟩⟩

def Coincide (a b : Child × Declaration) : Prop := a.1 = b.1 ∧ a.2.Coincides a.1.node b.2

section Coinciding
variable {parts others : List (Child × Declaration)}

theorem itemText_coincides {node : Schema} {a b : Declaration} (same : a.Coincides node b) :
    Workspace.itemText node a.input = Workspace.itemText node b.input := by
  unfold Workspace.itemText
  cases isReference : node.isReference with
  | true => exact same.name
  | false => rw [(same.inline isReference).1]

theorem contents_coincide (keep : Schema → Bool)
    (inline : ∀ node, keep node = true → node.isReference = false)
    (same : List.Forall₂ Coincide parts others) :
    contentsOf keep parts = contentsOf keep others := by
  induction same with
  | nil => rfl
  | @cons a b parts others one _ ih =>
    obtain ⟨child, coincides⟩ := one
    rw [contentsOf_cons, contentsOf_cons, ih, ← child]
    cases kept : keep a.1.node with
    | false => rfl
    | true => rw [(coincides.inline (inline _ kept)).2]

theorem arrange_coincide (own : String) (schema : Schema)
    (same : List.Forall₂ Coincide parts others) :
    schema.arrange own parts = schema.arrange own others := by
  have nested := contents_coincide Schema.isNested
    (by intro node; cases node <;> simp [Schema.isNested, Schema.isReference]) same
  have enumerations := contents_coincide Schema.isEnumeration
    (by intro node; cases node <;> simp [Schema.isEnumeration, Schema.isReference]) same
  have inline := contents_coincide Schema.isInline (by simp [Schema.isInline]) same
  cases schema <;> simp only [Schema.arrange, nested, enumerations, inline]

theorem property_coincides (required : List String) (name : String) {schema : Schema}
    {a b : Declaration} (same : a.Coincides schema b) :
    Member.property required ⟨name, schema, a⟩ = Member.property required ⟨name, schema, b⟩ := by
  have type := itemText_coincides same
  unfold Workspace.itemText at type
  simp only [Member.property, same.items]
  rw [type]

theorem composition_coincides {schema : Schema} {a b : Declaration} (same : a.Coincides schema b) :
    Branch.composition ⟨schema, a⟩ = Branch.composition ⟨schema, b⟩ := by
  unfold Branch.composition
  cases isReference : schema.isReference with
  | true => simp [same.name]
  | false =>
    obtain ⟨input, content⟩ := same.inline isReference
    simp [input, content]

theorem properties_coincide (required : List String) {members more : List Member} {index : Nat}
    (listed : members.map (fun member => (member.name, member.schema)) =
      more.map fun member => (member.name, member.schema))
    (same : List.Forall₂ Coincide
      ((propertyChildren index (members.map fun member => (member.name, member.schema))).zip
        (members.map Member.declaration))
      ((propertyChildren index (members.map fun member => (member.name, member.schema))).zip
        (more.map Member.declaration))) :
    members.map (Member.property required) = more.map (Member.property required) := by
  induction members generalizing more index with
  | nil =>
    cases more with
    | nil => rfl
    | cons => cases listed
  | cons member rest ih =>
    cases more with
    | nil => cases listed
    | cons other more =>
      obtain ⟨entry, later⟩ := List.cons.inj listed
      cases same with
      | cons one same =>
        obtain ⟨name, schema, declaration⟩ := member
        obtain ⟨_, _, declared⟩ := other
        cases entry
        rw [List.map_cons, List.map_cons, property_coincides required name one.2, ih later same]

theorem compositions_coincide {union : String} {branches more : List Branch} {index : Nat}
    (listed : branches.map Branch.schema = more.map Branch.schema)
    (same : List.Forall₂ Coincide
      ((branchChildren union index (branches.map Branch.schema)).zip
        (branches.map Branch.declaration))
      ((branchChildren union index (branches.map Branch.schema)).zip
        (more.map Branch.declaration))) :
    branches.map Branch.composition = more.map Branch.composition := by
  induction branches generalizing more index with
  | nil =>
    cases more with
    | nil => rfl
    | cons => cases listed
  | cons branch rest ih =>
    cases more with
    | nil => cases listed
    | cons other more =>
      obtain ⟨entry, later⟩ := List.cons.inj listed
      cases same with
      | cons one same =>
        obtain ⟨schema, declaration⟩ := branch
        obtain ⟨_, declared⟩ := other
        cases entry
        rw [List.map_cons, List.map_cons, composition_coincides one.2, ih later same]

end Coinciding

namespace Workspace
variable {workspace : Workspace} {scope : Document} {s t u v : Session}
variable {calls others more rest : List Call} {name : String} {ancestry : List String}
variable {schema node : Schema} {result other : Declaration}

theorem assembles_inputs {parts made : List Declaration}
    (first : workspace.Assembles name schema parts result)
    (second : workspace.Assembles name schema made other)
    (same : List.Forall₂ Coincide ((schema.children name).zip parts)
      ((schema.children name).zip made)) : result.input = other.input := by
  cases first with
  | object listed areParts isInput =>
    cases second with
    | object alsoListed areMade isOther =>
      subst listed areParts areMade
      subst isInput isOther
      rw [properties_coincide _ alsoListed same]
  | enumeration isInput =>
    cases second with
    | enumeration isOther =>
      subst isInput isOther
      rfl
  | union listed areParts isInput =>
    cases second with
    | union alsoListed areMade isOther =>
      subst listed areParts areMade
      subst isInput isOther
      rw [compositions_coincide alsoListed same]
  | array filled =>
    cases second with
    | array alsoFilled =>
      cases same with
      | cons one _ =>
        rw [itemText_coincides one.2] at filled
        cases filled.symm.trans alsoFilled
        rw [itemText_coincides one.2]
  | primitive isToken =>
    cases second with
    | primitive alsoToken =>
      cases isToken.symm.trans alsoToken
      rfl

theorem assembles_coincide {parts made : List Declaration}
    (first : workspace.Assembles name schema parts result)
    (second : workspace.Assembles name schema made other)
    (same : List.Forall₂ Coincide ((schema.children name).zip parts)
      ((schema.children name).zip made)) : result.Coincides schema other := by
  obtain ⟨_, named, own, rendered, content⟩ := assembles_content first
  obtain ⟨_, alsoNamed, text, written, alsoContent⟩ := assembles_content second
  have input := assembles_inputs first second same
  rw [input] at rendered
  cases rendered.symm.trans written
  have texts : result.content = other.content := by
    rw [content, alsoContent, arrange_coincide own schema same]
  exact ⟨named.trans alsoNamed.symm, by rw [input], fun _ => ⟨input, texts⟩⟩

/-- Two declarations of a node that begin with answers that resemble each other coincide, and as
many calls have been used up by both. -/
def Coincides (workspace : Workspace) (scope : Document) (position : Position) (node : Schema) :
    Prop :=
  ∀ (ancestry : List String) (s t u v : Session) (calls others more rest : List Call)
    (result other : Declaration),
    workspace.Follows (position.declare workspace scope ancestry node) s calls (.done result) t →
    workspace.Follows (position.declare workspace scope ancestry node) u others (.done other) v →
    List.Forall₂ Call.Resembles (calls ++ more) (others ++ rest) →
    result.Coincides node other ∧ List.Forall₂ Call.Resembles more rest

theorem each_coincide {children : List Child} {parts made : List Declaration}
    (inner : ∀ child ∈ children, workspace.Coincides scope child.position child.node)
    (first : workspace.DeclaresEach scope ancestry children s calls parts t)
    (second : workspace.DeclaresEach scope ancestry children u others made v)
    (same : List.Forall₂ Call.Resembles (calls ++ more) (others ++ rest)) :
    List.Forall₂ Coincide (children.zip parts) (children.zip made) ∧
      List.Forall₂ Call.Resembles more rest := by
  induction first generalizing u others made with
  | nil =>
    cases second with
    | nil => exact ⟨.nil, same⟩
  | cons one _ ih =>
    obtain ⟨here, later⟩ := List.forall_mem_cons.mp inner
    cases second with
    | cons also alsoLater =>
      rw [List.append_assoc, List.append_assoc] at same
      obtain ⟨coincides, same⟩ := here _ _ _ _ _ _ _ _ _ _ _ one also same
      obtain ⟨parts, left⟩ := ih later alsoLater same
      exact ⟨.cons ⟨rfl, coincides⟩ parts, left⟩

theorem declareNode_coincides (notReference : schema.isReference = false)
    (inner : ∀ name, ∀ child ∈ schema.children name,
      workspace.Coincides scope child.position child.node)
    (first : workspace.Follows (workspace.declareNode scope ancestry name schema) s calls
      (.done result) t)
    (second : workspace.Follows (workspace.declareNode scope ancestry name schema) u others
      (.done other) v)
    (same : List.Forall₂ Call.Resembles (calls ++ more) (others ++ rest)) :
    result.Coincides schema other ∧ List.Forall₂ Call.Resembles more rest := by
  obtain ⟨parts, _, each, assembles⟩ := declareNode_assembles notReference first
  obtain ⟨made, _, alsoEach, alsoAssembles⟩ := declareNode_assembles notReference second
  obtain ⟨coincide, left⟩ := each_coincide (inner name) each alsoEach same
  exact ⟨assembles_coincide assembles alsoAssembles coincide, left⟩

theorem position_coincides (workspace : Workspace) (scope : Document) (position : Position)
    (node : Schema) : workspace.Coincides scope position node := by
  induction node using Schema.induction generalizing position with
  | step node ih =>
    intro ancestry s t u v calls others more rest result other first second same
    rcases follows_position first with ⟨cuts, rfl, rfl⟩ | ⟨uncut, inner⟩
    · rcases follows_position second with ⟨_, rfl, rfl⟩ | ⟨uncut, _⟩
      · exact ⟨coincides_refl node _, same⟩
      · exact absurd cuts uncut
    · rcases follows_position second with ⟨cuts, _⟩ | ⟨_, alsoInner⟩
      · exact absurd cuts uncut
      · cases isReference : node.isReference with
        | true =>
          cases node with
          | reference reference note =>
            obtain rfl := follows_ask inner
            obtain rfl := follows_ask alsoInner
            cases same with
            | cons answer left =>
              refine ⟨⟨answer.name, answer.items, ?_⟩, left⟩
              intro inline
              cases inline
          | _ => cases isReference
        | false =>
          exact declareNode_coincides isReference
            (fun name child member => ih name child member child.position) inner alsoInner same

/-- The text of what a schema is declared as inside of types of these names, where the declaration
begins in `s` and references are answered by `calls`. -/
structure InlineText (workspace : Workspace) (scope : Document) (ancestry : List String)
    (name : String) (schema : Schema) (s : Session) (calls : List Call) (result : Declaration) :
    Prop where
  cut : name ∈ ancestry → result.content = ""
  spelled : name ∉ ancestry →
    workspace.Spelled scope (name :: ancestry) name schema s calls result
  composed : name ∉ ancestry →
    workspace.Composes result.content (schema.nodes (name :: ancestry) name [])
  once : name ∉ ancestry → ((schema.nodes (name :: ancestry) name []).map InlineNode.path).Nodup
  /-- These are all nodes that declare a type and neither are cut nor lie in one that is. -/
  listed : (schema.nodes (name :: ancestry) name []).Perm
    ((schema.occurrences (name :: ancestry) name []).filterMap Occurrence.declared?)
  /-- Whatever text stands behind the references, this one stays as it is. -/
  blind : ∀ u others other v,
    workspace.Follows (workspace.declareUnder scope ancestry name schema) u others (.done other) v →
    List.Forall₂ Call.Resembles calls others → other.content = result.content

theorem nodes_once (free : name ∉ ancestry) :
    ((schema.nodes (name :: ancestry) name []).map InlineNode.path).Nodup := by
  have nested := schema.innerNodes_nested (name :: ancestry) name []
  have placed : Placed ancestry [] (schema.nodes (name :: ancestry) name []) :=
    Schema.nodes_placed (fun taken => absurd taken free) nested
  exact (nodesApart_of_ordered placed.ordered).once

theorem declareUnder_blind (notReference : schema.isReference = false)
    (first : workspace.Follows (workspace.declareUnder scope ancestry name schema) s calls
      (.done result) t)
    (second : workspace.Follows (workspace.declareUnder scope ancestry name schema) u others
      (.done other) v)
    (same : List.Forall₂ Call.Resembles calls others) : other.content = result.content := by
  rcases follows_declareUnder first with ⟨isOpen, _, rfl⟩ | ⟨free, inner⟩
  · rcases follows_declareUnder second with ⟨_, _, rfl⟩ | ⟨free, _⟩
    · rfl
    · exact absurd isOpen free
  · rcases follows_declareUnder second with ⟨isOpen, _⟩ | ⟨_, alsoInner⟩
    · exact absurd isOpen free
    · have both : List.Forall₂ Call.Resembles (calls ++ []) (others ++ []) := by simpa using same
      obtain ⟨coincides, _⟩ := declareNode_coincides notReference
        (fun _ child _ => position_coincides workspace scope child.position child.node) inner
        alsoInner both
      exact (coincides.inline notReference).2.symm

/-- Whatever a schema is declared as has the texts of the nodes declared inside of it for its text,
one for each of them and in order, and no text that a reference leads to. -/
theorem content_is_inline_declarations {depth : Nat} (notReference : schema.isReference = false)
    (run : (workspace.follow (workspace.expandWithin depth)
      (workspace.declareUnder scope ancestry name schema)).run s = (.ok result, t)) :
    ∃ calls, workspace.Follows (workspace.declareUnder scope ancestry name schema) s calls
        (.done result) t ∧ workspace.InlineText scope ancestry name schema s calls result := by
  obtain ⟨calls, follows⟩ := follows_of_runs (runs_of_follow depth _ run) rfl
  have blind : ∀ u others other v,
      workspace.Follows (workspace.declareUnder scope ancestry name schema) u others (.done other)
        v →
      List.Forall₂ Call.Resembles calls others → other.content = result.content :=
    fun _ _ _ _ second => declareUnder_blind notReference follows second
  refine ⟨calls, follows, ?_⟩
  rcases follows_declareUnder follows with ⟨isOpen, _, rfl⟩ | ⟨free, inner⟩
  · exact ⟨fun _ => rfl, fun free => absurd isOpen free, fun free => absurd isOpen free,
      nodes_once, schema.nodes_perm _ _ _, blind⟩
  · exact ⟨fun isOpen => absurd isOpen free, fun _ => declareNode_spelled notReference inner,
      fun _ => declareNode_composes schema _ _ [] s t calls result notReference inner, nodes_once,
      schema.nodes_perm _ _ _, blind⟩

end Workspace

namespace NestedContents
open SameName (object single)
open ChainedTypes (body)
open Workspace

/-! An object with an enumeration before an object with another one, an array of unions, and a
reference. -/

def values : Schema := .enumeration .string [.string "a"] {}

def pet : Schema :=
  .object [("status", values), ("address", .object [("kind", values)] [] {}),
    ("tags", .array (.union [values, .reference "#/types/Owner" {}] {}) {}),
    ("owner", .reference "#/types/Owner" {})] [] {}

def workspace : Workspace where
  root := ⟨Path.ofString "/spec.yaml", body [("Owner", object [("name", single "type" "string")])]⟩
  library := { documents := [] }
  tokens := Table.ofList [("string", .direct "string"), ("array", .direct (itemMark ++ "[]"))]
  renderer := RepeatedNames.renderer

def run : Except Failure Declaration × Session :=
  (workspace.follow (workspace.expandWithin 1)
    (workspace.declareUnder workspace.root [] "Pet" pet)).run {}

theorem pet_has_its_own_text : ∃ result t calls, run = (.ok result, t) ∧
    result.content =
      "object Pet;object Address;enum KindEnum;union TagsItem;enum TagsItem1;enum StatusEnum;" ∧
    workspace.InlineText workspace.root [] "Pet" pet {} calls result := by
  have content : run.1.toOption.map Declaration.content = some
      "object Pet;object Address;enum KindEnum;union TagsItem;enum TagsItem1;enum StatusEnum;" := by
    decide +kernel
  rcases start : run with ⟨failure | result, t⟩
  · rw [start] at content
    cases content
  · rw [start] at content
    have notReference : pet.isReference = false := rfl
    obtain ⟨calls, _, text⟩ := content_is_inline_declarations notReference start
    exact ⟨result, t, calls, rfl, Option.some.inj content, text⟩

end NestedContents

end Typewright
