import Typewright.Proofs.Binding
import Typewright.Proofs.InlineNodes

/-!
What the text of a file declares. The text of a type is that of its declared nodes in order, one
rendering for each, and a file is the texts of its types. No table of names is kept: names repeat
where different nodes are given the same one.
-/
namespace Typewright

namespace Workspace
variable {workspace : Workspace} {scope : Document} {s t : Session} {calls : List Call}
variable {name : String} {result : Declaration}

def Renders (workspace : Workspace) (kind : DeclarationKind) (name text : String) : Prop :=
  match kind with
  | .object => ∃ input, input.name = name ∧ workspace.renderer.object input = .ok text
  | .enumeration => ∃ input, input.name = name ∧ workspace.renderer.enumeration input = .ok text
  | .union => ∃ input, input.name = name ∧ workspace.renderer.union input = .ok text

/-- The content is made of one rendering for each of these nodes, in order. -/
def Composes (workspace : Workspace) (content : String) (nodes : List InlineNode) : Prop :=
  ∃ texts, content = String.join texts ∧
    List.Forall₂ (fun node text => workspace.Renders node.kind node.name text) nodes texts

theorem composes_nil : workspace.Composes "" [] := ⟨[], rfl, .nil⟩

theorem composes_cons {text content : String} {node : InlineNode} {nodes : List InlineNode}
    (renders : workspace.Renders node.kind node.name text)
    (composes : workspace.Composes content nodes) :
    workspace.Composes (text ++ content) (node :: nodes) := by
  obtain ⟨texts, rfl, rendered⟩ := composes
  exact ⟨text :: texts, String.join_cons.symm, .cons renders rendered⟩

theorem composes_append {first second : String} {earlier later : List InlineNode}
    (one : workspace.Composes first earlier) (other : workspace.Composes second later) :
    workspace.Composes (first ++ second) (earlier ++ later) := by
  obtain ⟨texts, rfl, rendered⟩ := one
  obtain ⟨more, rfl, alsoRendered⟩ := other
  exact ⟨texts ++ more, String.join_append.symm, List.rel_append rendered alsoRendered⟩

/-! The content of parts -/

theorem composes_unlessCut {ancestry : List String} {walk : Walk Declaration}
    {nodes : List InlineNode}
    (inner : workspace.Follows walk s calls (.done result) t →
      workspace.Composes result.content nodes)
    (follows : workspace.Follows (unlessOpen ancestry name walk) s calls (.done result) t) :
    workspace.Composes result.content (Schema.unlessCut ancestry name nodes) := by
  unfold Schema.unlessCut
  rcases follows_unlessOpen follows with ⟨taken, _, rfl⟩ | ⟨free, inside⟩
  · rw [if_pos taken]
    exact composes_nil
  · rw [if_neg free]
    exact inner inside

theorem composes_property {ancestry : List String} {property : String} {schema : Schema}
    {declare : List String → String → Walk Declaration}
    {nodes : List String → String → List InlineNode}
    (inner : ∀ around name, workspace.Follows (declare around name) s calls (.done result) t →
      workspace.Composes result.content (nodes around name))
    (follows : workspace.Follows (declareProperty ancestry property declare schema) s calls
      (.done result) t) :
    workspace.Composes result.content
      (Schema.propertyNodes ancestry property nodes schema) := by
  cases schema with
  | object => exact composes_unlessCut (inner _ _) follows
  | enumeration => exact composes_unlessCut (inner _ _) follows
  | union => exact inner _ _ follows
  | array => exact inner _ _ follows
  | reference => exact inner _ _ follows
  | primitive => exact inner _ _ follows

theorem nodes_reference {ancestry : List String} {path : List Hop} {schema : Schema}
    (isReference : schema.isReference = true) : schema.nodes ancestry name path = [] := by
  cases schema with
  | reference => simp [Schema.nodes, Schema.ownNode, Schema.kind?, Schema.innerNodes]
  | _ => cases isReference

theorem composes_branch {ancestry : List String} {path : List Hop} {schema : Schema}
    {declare : List String → String → Walk Declaration}
    (inner : schema.isReference = false → ∀ around,
      workspace.Follows (declare around name) s calls (.done result) t →
      workspace.Composes result.content (schema.nodes around name path))
    (follows : workspace.Follows (declareBranch ancestry name declare schema) s calls
      (.done result) t) :
    workspace.Composes (Branch.content ⟨schema, result⟩)
      (Schema.unlessCut ancestry name (schema.nodes (name :: ancestry) name path)) := by
  unfold declareBranch at follows
  unfold Branch.content
  cases isReference : schema.isReference with
  | true =>
    rw [nodes_reference isReference]
    simp only [Schema.unlessCut, ite_self, if_true]
    exact composes_nil
  | false =>
    simp only [isReference, Bool.false_eq_true, if_false] at follows ⊢
    exact composes_unlessCut (inner isReference _) follows

structure Covers (workspace : Workspace) (member : Member) (part : Part) : Prop where
  isEnumeration : part.isEnumeration = member.isEnumeration
  content : member.schema.isReference = false →
    workspace.Composes member.declaration.content part.nodes
  silent : member.isNested = false → member.isEnumeration = false → part.nodes = []

theorem member_kinds (member : Member) :
    (member.isNested = true ∧ member.isEnumeration = false ∧ member.schema.isReference = false) ∨
      (member.isNested = false ∧ member.isEnumeration = true ∧
        member.schema.isReference = false) ∨
      (member.isNested = false ∧ member.isEnumeration = false) := by
  obtain ⟨name, schema, declaration⟩ := member
  cases schema <;> simp [Member.isNested, Member.isEnumeration, Schema.isReference]

theorem joinContents_cons (declaration : Declaration) (rest : List Declaration) :
    joinContents (declaration :: rest) = declaration.content ++ joinContents rest :=
  String.join_cons

theorem composes_members {members : List Member} {parts : List Part}
    (covers : List.Forall₂ workspace.Covers members parts) :
    workspace.Composes (joinContents ((members.filter Member.isNested).map Member.declaration))
        ((parts.filter fun part => !part.isEnumeration).flatMap Part.nodes) ∧
      workspace.Composes
        (joinContents ((members.filter Member.isEnumeration).map Member.declaration))
        ((parts.filter Part.isEnumeration).flatMap Part.nodes) := by
  induction covers with
  | nil => exact ⟨composes_nil, composes_nil⟩
  | @cons member part members parts one _ ih =>
    obtain ⟨nested, enumerations⟩ := ih
    have same := one.isEnumeration
    rcases member_kinds member with ⟨isNested, other, plain⟩ | ⟨other, isEnumeration, plain⟩ |
      ⟨first, second⟩
    · simp only [List.filter_cons, isNested, same, other, Bool.not_false, Bool.false_eq_true,
        if_true, if_false, List.map_cons, joinContents_cons, List.flatMap_cons]
      exact ⟨composes_append (one.content plain) nested, enumerations⟩
    · simp only [List.filter_cons, isEnumeration, same, other, Bool.not_true, Bool.false_eq_true,
        if_true, if_false, List.map_cons, joinContents_cons, List.flatMap_cons]
      exact ⟨nested, composes_append (one.content plain) enumerations⟩
    · simp only [List.filter_cons, first, same, second, Bool.not_false, Bool.false_eq_true,
        if_true, if_false, List.flatMap_cons, one.silent first second, List.nil_append]
      exact ⟨nested, enumerations⟩

theorem composes_branches {branches : List Branch} {parts : List Part}
    (covers : List.Forall₂ (fun branch part => workspace.Composes branch.content part.nodes)
      branches parts) :
    workspace.Composes (String.join (branches.map Branch.content))
      (parts.flatMap Part.nodes) := by
  induction covers with
  | nil => exact composes_nil
  | cons one _ ih =>
    rw [List.map_cons, String.join_cons, List.flatMap_cons]
    exact composes_append one ih

mutual

theorem declareNode_composes : (schema : Schema) → (ancestry : List String) → (name : String) →
    (path : List Hop) → (s t : Session) → (calls : List Call) → (result : Declaration) →
    schema.isReference = false →
    workspace.Follows (workspace.declareNode scope ancestry name schema) s calls (.done result) t →
    workspace.Composes result.content (schema.nodes ancestry name path)
  | .object properties _ _, ancestry, name, path, s, _, _, _, _, follows => by
    obtain ⟨members, first, _, u, _, inner, own⟩ := follows_bind_done follows
    obtain ⟨text, rendered, _, rfl⟩ := follows_declareObject own
    have covers := declareProperties_covers properties ancestry path 0 s u first members inner
    -- both passes over the members have their counterpart in how the parts are arranged
    obtain ⟨nested, enumerations⟩ := composes_members covers
    rw [String.append_assoc, Schema.nodes_kind rfl]
    exact composes_cons ⟨_, rfl, rendered⟩ (by
      unfold Schema.innerNodes arranged
      rw [List.flatMap_append]
      exact composes_append nested enumerations)
  | .enumeration .., ancestry, name, path, _, _, _, _, _, follows => by
    obtain ⟨text, rendered, _, rfl⟩ := follows_declareEnumeration follows
    have composes : workspace.Composes (text ++ "") [⟨path, .enumeration, name⟩] :=
      composes_cons ⟨_, rfl, rendered⟩ composes_nil
    rw [String.append_empty] at composes
    rw [Schema.nodes_kind rfl]
    unfold Schema.innerNodes
    exact composes
  | .union variants _, ancestry, name, path, s, _, _, _, _, follows => by
    obtain ⟨branches, first, _, u, _, inner, own⟩ := follows_bind_done follows
    obtain ⟨text, rendered, _, rfl⟩ := follows_declareUnion own
    have covers := declareVariants_covers variants ancestry name path 1 s u first branches inner
    rw [Schema.nodes_kind rfl]
    exact composes_cons ⟨_, rfl, rendered⟩ (by
      unfold Schema.innerNodes
      exact composes_branches covers)
  | .array items _, ancestry, name, path, s, _, _, _, _, follows => by
    obtain ⟨item, first, _, u, _, inner, own⟩ := follows_bind_done follows
    obtain ⟨_, _, _, rfl⟩ := follows_declareArray own
    rw [Schema.nodes_plain rfl, Schema.innerNodes_array]
    cases isReference : items.isReference with
    | true =>
      rw [nodes_reference isReference, Schema.unlessCut, ite_self]
      exact composes_nil
    | false =>
      show workspace.Composes item.content _
      exact composes_unlessCut (fun inside => declareNode_composes items _ _ (.item :: path) s u
        first item isReference inside) inner
  | .reference .., _, _, _, _, _, _, _, notReference, _ => nomatch notReference
  | .primitive .., ancestry, name, path, _, _, _, _, _, follows => by
    obtain ⟨_, _, _, rfl⟩ := follows_declarePrimitive follows
    rw [Schema.nodes_plain rfl]
    unfold Schema.innerNodes
    exact composes_nil

theorem declareProperties_covers : (properties : List (String × Schema)) →
    (ancestry : List String) → (path : List Hop) → (position : Nat) → (s t : Session) →
    (calls : List Call) → (members : List Member) →
    workspace.Follows (workspace.declareProperties scope ancestry properties) s calls
      (.done members) t →
    List.Forall₂ workspace.Covers members
      (Schema.propertyParts ancestry path position properties)
  | [], _, _, _, _, _, _, _, follows => by
    obtain ⟨_, rfl, _⟩ := follows_done follows
    unfold Schema.propertyParts
    exact .nil
  | (property, schema) :: rest, ancestry, path, position, s, t, calls, members, follows => by
    obtain ⟨declaration, first, others, u, _, one, later⟩ := follows_bind_done follows
    obtain ⟨tail, second, last, v, _, more, done⟩ := follows_bind_done later
    obtain ⟨_, rfl, _⟩ := follows_done done
    have inner (notReference : schema.isReference = false) (around : List String) (name : String) :=
      declareNode_composes schema around name (.property position :: path) s u first declaration
        notReference
    unfold Schema.propertyParts
    refine .cons ⟨?_, ?_, ?_⟩
      (declareProperties_covers rest ancestry path (position + 1) u v second tail more)
    · cases schema <;> rfl
    · intro notReference
      exact composes_property (inner notReference) one
    · intro notNested notEnumeration
      cases schema with
      | reference => simp [Schema.propertyNodes, Schema.ownNode, Schema.kind?, Schema.innerNodes]
      | primitive => simp [Schema.propertyNodes, Schema.ownNode, Schema.kind?, Schema.innerNodes]
      | enumeration => cases notEnumeration
      | _ => cases notNested

theorem declareVariants_covers : (variants : List Schema) → (ancestry : List String) →
    (owner : String) → (path : List Hop) → (position : Nat) → (s t : Session) →
    (calls : List Call) → (branches : List Branch) →
    workspace.Follows (workspace.declareVariants scope ancestry owner position variants) s calls
      (.done branches) t →
    List.Forall₂ (fun branch part => workspace.Composes branch.content part.nodes) branches
      (Schema.variantParts ancestry owner path position variants)
  | [], _, _, _, _, _, _, _, _, follows => by
    obtain ⟨_, rfl, _⟩ := follows_done follows
    unfold Schema.variantParts
    exact .nil
  | schema :: rest, ancestry, owner, path, position, s, t, calls, branches, follows => by
    obtain ⟨declaration, first, others, u, _, one, later⟩ := follows_bind_done follows
    obtain ⟨tail, second, last, v, _, more, done⟩ := follows_bind_done later
    obtain ⟨_, rfl, _⟩ := follows_done done
    have inner (notReference : schema.isReference = false) (around : List String) :=
      declareNode_composes schema around (branchTypeName owner position)
        (.branch position :: path) s u first declaration notReference
    unfold Schema.variantParts
    exact .cons (composes_branch inner one)
      (declareVariants_covers rest ancestry owner path (position + 1) u v second tail more)

end

theorem declare_composes {schema : Schema} (notReference : schema.isReference = false)
    (follows : workspace.Follows (workspace.declare scope name schema) s calls (.done result) t) :
    workspace.Composes result.content (schema.typeNodes name) := by
  have inner : workspace.Follows (workspace.declareNode scope [name] name schema) s calls
      (.done result) t := follows
  exact declareNode_composes schema [name] name [] s t calls result notReference inner

theorem generated_composes {begun : Walk Declaration → Session → Prop} {schema : Schema}
    {declaration : Declaration}
    (generated : Generated workspace begun scope name schema calls declaration) :
    workspace.Composes declaration.content (schema.typeNodes name) := by
  obtain ⟨s, declared, t, _, notReference, follows, rfl⟩ := generated
  have composes := declare_composes notReference follows
  exact composes

end Workspace

/-! The text of files -/

def fileNodes (sources : List (String × Schema)) : List (String × InlineNode) :=
  sources.flatMap fun source => (source.2.typeNodes source.1).map fun node => (source.1, node)

theorem fileNodes_cons (source : String × Schema) (rest : List (String × Schema)) :
    (fileNodes (source :: rest)).map Prod.snd =
      source.2.typeNodes source.1 ++ (fileNodes rest).map Prod.snd := by
  simp [fileNodes, Function.comp_def]

theorem mem_fileNodes {sources : List (String × Schema)} {node : String × InlineNode}
    (member : node ∈ fileNodes sources) :
    ∃ source ∈ sources, node.1 = source.1 ∧ node.2 ∈ source.2.typeNodes source.1 := by
  obtain ⟨source, listed, inner⟩ := List.mem_flatMap.mp member
  obtain ⟨own, isOwn, rfl⟩ := List.mem_map.mp inner
  exact ⟨source, listed, rfl, isOwn⟩

theorem fileNodes_once {sources : List (String × Schema)}
    (names : (sources.map Prod.fst).Nodup) :
    ((fileNodes sources).map fun node => (node.1, node.2.path)).Nodup := by
  unfold fileNodes
  rw [List.map_flatMap, List.nodup_flatMap]
  constructor
  · intro source _
    have once := (typeNodes_apart source.1 source.2).once
    have paired := List.Nodup.map (fun a b same => congrArg Prod.snd same) once
      (f := fun path => (source.1, path))
    simpa [List.map_map, Function.comp_def] using paired
  · refine (List.pairwise_map.mp names).imp ?_
    intro first second different
    apply List.disjoint_left.mpr
    intro pair isFirst isSecond
    obtain ⟨a, inFirst, rfl⟩ := List.mem_map.mp isFirst
    obtain ⟨b, inSecond, same⟩ := List.mem_map.mp isSecond
    obtain ⟨_, _, rfl⟩ := List.mem_map.mp inFirst
    obtain ⟨_, _, rfl⟩ := List.mem_map.mp inSecond
    exact different (congrArg Prod.fst same).symm

/-- A declaration in a file was generated from this schema, under the same name. -/
def MadeFrom (workspace : Workspace) (begun : Walk Declaration → Session → Prop)
    (member : String × Declaration) (source : String × Schema) : Prop :=
  member.1 = source.1 ∧
    ∃ scope calls, Generated workspace begun scope source.1 source.2 calls member.2

/-- What a file declares, its types being generated from these schemas under their names. -/
structure DeclaresNodes (workspace : Workspace) (begun : Walk Declaration → Session → Prop)
    (draft : Layout.Draft) (sources : List (String × Schema)) : Prop where
  generated : List.Forall₂ (MadeFrom workspace begun) draft.members sources
  names : draft.names.Nodup
  /-- The text has one rendering for each declared node and nothing else. -/
  composed : workspace.Composes draft.content ((fileNodes sources).map Prod.snd)
  once : ((fileNodes sources).map fun node => (node.1, node.2.path)).Nodup
  /-- Of two nodes of one name, one inside the other, the inner one is a union property. -/
  inside : ∀ a ∈ fileNodes sources, ∀ b ∈ fileNodes sources, a.1 = b.1 →
    a.2.path ≠ b.2.path → a.2.path <:+ b.2.path → a.2.name = b.2.name → b.2.IsUnionProperty

section Files
variable {workspace : Workspace} {begun : Walk Declaration → Session → Prop}
variable {members : List (String × Declaration)} {sources : List (String × Schema)}

theorem sources_of_generated
    (generated : ∀ member ∈ members, ∃ scope schema calls,
      Generated workspace begun scope member.1 schema calls member.2) :
    ∃ sources, List.Forall₂ (MadeFrom workspace begun) members sources := by
  induction members with
  | nil => exact ⟨[], .nil⟩
  | cons member rest ih =>
    obtain ⟨scope, schema, calls, own⟩ := generated member List.mem_cons_self
    obtain ⟨sources, others⟩ := ih fun other isIn => generated other (List.mem_cons_of_mem _ isIn)
    exact ⟨(member.1, schema) :: sources, .cons ⟨rfl, scope, calls, own⟩ others⟩

theorem names_of_made (made : List.Forall₂ (MadeFrom workspace begun) members sources) :
    members.map Prod.fst = sources.map Prod.fst := by
  induction made with
  | nil => rfl
  | cons own _ ih => rw [List.map_cons, List.map_cons, own.1, ih]

theorem composes_of_made (made : List.Forall₂ (MadeFrom workspace begun) members sources) :
    workspace.Composes (String.join (members.map fun member => member.2.content))
      ((fileNodes sources).map Prod.snd) := by
  induction made with
  | nil => exact Workspace.composes_nil
  | cons own _ ih =>
    obtain ⟨_, _, _, generated⟩ := own
    rw [List.map_cons, String.join_cons, fileNodes_cons]
    exact Workspace.composes_append (Workspace.generated_composes generated) ih

theorem declaresNodes_of_sources {draft : Layout.Draft} (names : draft.names.Nodup)
    (made : List.Forall₂ (MadeFrom workspace begun) draft.members sources) :
    DeclaresNodes workspace begun draft sources := by
  have distinct : (sources.map Prod.fst).Nodup := names_of_made made ▸ names
  refine ⟨made, names, composes_of_made made, fileNodes_once distinct, ?_⟩
  · intro a isA b isB types different around same
    obtain ⟨first, isFirst, nameA, inFirst⟩ := mem_fileNodes isA
    obtain ⟨second, isSecond, nameB, inSecond⟩ := mem_fileNodes isB
    have one : first = second := by
      apply List.inj_on_of_nodup_map distinct isFirst isSecond
      rw [← nameA, ← nameB, types]
    subst one
    have apart : a.2 ≠ b.2 := fun equal => different (congrArg InlineNode.path equal)
    exact (typeNodes_apart first.1 first.2).inside a.2 inFirst b.2 inSecond apart around same

theorem made_of_draft {placement : Placement} {spec : Spec} {generation : Generation} {t : Session}
    {draft : Layout.Draft}
    (run : (workspace.declareAll spec).run { trace := [.load workspace.root.path] } =
      (.ok generation, t)) (isIn : draft ∈ placement.drafts generation) :
    ∃ sources, List.Forall₂ (MadeFrom workspace
      (workspace.Begins [.load workspace.root.path] [.all spec])) draft.members sources :=
  sources_of_generated fun _ inside => generated_of_draft run isIn inside

end Files

def Outcome.DeclaresOnce (outcome : Outcome) (workspace : Workspace) : Prop :=
  let begun := workspace.Begins [.load workspace.root.path] [.all outcome.spec]
  ∀ (placement : Placement), ∀ draft ∈ placement.drafts outcome.generation,
    (∃ sources, List.Forall₂ (MadeFrom workspace begun) draft.members sources) ∧
      ∀ sources, List.Forall₂ (MadeFrom workspace begun) draft.members sources →
        DeclaresNodes workspace begun draft sources

/-- In every run over a document each file declares each node of its types once. -/
theorem files_declare_nodes_once {library : Library} {tokens : TokenTable} {renderer : Renderer}
    {path : Path} {outcome : Outcome}
    (run : ((declareDocument library tokens renderer path).run {}).1 = .ok outcome) :
    ∃ body, library.load path = .ok body ∧
      outcome.DeclaresOnce ⟨⟨path, body⟩, library, tokens, renderer⟩ := by
  obtain ⟨body, loaded, _, declares⟩ := Workspace.declareDocument_ok (Prod.ext run rfl)
  exact ⟨body, loaded, fun placement draft isIn => ⟨made_of_draft declares isIn,
    fun _ => declaresNodes_of_sources (Placement.names_nodup isIn)⟩⟩

namespace RepeatedNames
open SameName (mapping single object info tokens placement path)

/-! A union that is called like the object around it, properties whose names differ in case only,
and a property of that name in another type. -/

def union : Yaml.Value :=
  mapping [("oneOf", .sequence [single "type" "string", single "type" "string"])]

def library : Library where
  documents := [(path, .ok (mapping [info, ("types", mapping [
    ("Status", object [("status", union)]),
    ("Pet", object [("meta", object []), ("Meta", object [])]),
    ("Owner", object [("meta", object [])])])]))]

def renderer : Renderer where
  object input := .ok ("object " ++ input.name ++ ";")
  enumeration input := .ok ("enum " ++ input.name ++ ";")
  union input := .ok ("union " ++ input.name ++ ";")

def run : Except Failure Outcome := ((declareDocument library tokens renderer path).run {}).1

def oneFile : Placement :=
  { placement with modes := { types := .singleFile, groups := .singleFile } }

/-- One file declares `Status` twice and `Meta` three times. -/
theorem names_repeat_in_a_file :
    (run.toOption.map fun outcome => (oneFile.layout outcome.generation).files.map fun file =>
      (file.path.toString, file.types, file.content)) =
      some [("/out/types.ts", ["Status", "Pet", "Owner"],
        "object Status;union Status;object Pet;object Meta;object Meta;object Owner;object Meta;")] := by
  decide +kernel

theorem nodes_declared_once : ∃ outcome body, run = .ok outcome ∧ library.load path = .ok body ∧
    outcome.DeclaresOnce ⟨⟨path, body⟩, library, tokens, renderer⟩ := by
  have ends : run.isOk = true := by decide +kernel
  cases done : run with
  | error failure =>
    rw [done] at ends
    cases ends
  | ok outcome =>
    obtain ⟨body, loaded, once⟩ := files_declare_nodes_once done
    exact ⟨outcome, body, rfl, loaded, once⟩

end RepeatedNames

end Typewright
