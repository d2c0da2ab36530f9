import Typewright.Proofs.ExternalReferences

/-!
What properties tell about the types that they refer to. The name is that of the target, and the
item type is that of the target's items, whether the target was remembered or was expanded for the
property. An array that is still under expansion when a property leads back to it has no item type
yet, and the property stays without one.
-/
namespace Typewright

namespace Workspace
variable {workspace : Workspace} {scope : Document} {s t u : Session} {calls : List Call}
variable {result : Declaration} {name : String} {requests : List Request} {trace : List Event}

/-! Items of arrays -/

/-- The text is what is written for the items of an array called `name`; `ancestry` holds the names
being declared around it. Of items that are references it is the name of the type at the end of the
chain; where the chain strays, one of its references leading back to itself, the text is left
open. -/
inductive IsItemType (workspace : Workspace) (scope : Document) :
    List String → String → Schema → String → Prop where
  | cut {ancestry : List String} {name : String} {items : Schema}
    (isOpen : itemTypeName name ∈ ancestry) :
    IsItemType workspace scope ancestry name items (itemTypeName name)
  | object {ancestry : List String} {name : String} {properties : List (String × Schema)}
    {required : List String} {note : Annotation} :
    IsItemType workspace scope ancestry name (.object properties required note)
      (itemTypeName name)
  | enumeration {ancestry : List String} {name : String} {type : DataType} {values : List Literal}
    {note : Annotation} :
    IsItemType workspace scope ancestry name (.enumeration type values note) (itemTypeName name)
  | union {ancestry : List String} {name : String} {variants : List Schema} {note : Annotation} :
    IsItemType workspace scope ancestry name (.union variants note) (itemTypeName name)
  | array {ancestry : List String} {name inner text : String} {items : Schema} {note : Annotation}
    (free : itemTypeName name ∉ ancestry)
    (isItem : IsItemType workspace scope (itemTypeName name :: ancestry) (itemTypeName name) items
      inner)
    (isArray : workspace.tokens.array inner = .ok text) :
    IsItemType workspace scope ancestry name (.array items note) text
  | reference {ancestry : List String} {name reference text : String} {note : Annotation}
    (free : itemTypeName name ∉ ancestry) (isNamed : workspace.IsNamedFor scope reference text) :
    IsItemType workspace scope ancestry name (.reference reference note) text
  | primitive {ancestry : List String} {name text : String} {type : DataType}
    {format : Option String} {note : Annotation} (free : itemTypeName name ∉ ancestry)
    (isToken : workspace.tokens.primitive type format = .ok text) :
    IsItemType workspace scope ancestry name (.primitive type format note) text

theorem declareArray_items : (items : Schema) → (note : Annotation) → (ancestry : List String) →
    (name : String) → (s t : Session) → (calls : List Call) → (result : Declaration) →
    workspace.Follows (workspace.declareNode scope ancestry name (.array items note)) s calls
      (.done result) t →
    (∀ call ∈ calls, workspace.IsNamedFor call.scope call.reference call.answer.name) →
    ∃ text, workspace.IsItemType scope ancestry name items text ∧
      result.input.itemType? = some text ∧ workspace.tokens.array text = .ok result.input.type
  | items, note, ancestry, name, s, t, calls, result, follows, named => by
    obtain ⟨item, first, second, u, rfl, inner, own⟩ := follows_bind_done follows
    obtain ⟨type, filled, rfl, rfl⟩ := follows_declareArray own
    refine ⟨itemText items item.input, ?_, rfl, filled⟩
    have named (call : Call) (member : call ∈ first) := named call (List.mem_append_left _ member)
    rcases follows_unlessOpen inner with ⟨isOpen, _, rfl⟩ | ⟨free, inside⟩
    · rw [itemText_pending]
      exact .cut isOpen
    · cases items with
      | object properties required note =>
        obtain ⟨_, _, _, _, _, _, made⟩ := follows_bind_done inside
        obtain ⟨_, _, _, rfl⟩ := follows_declareObject made
        exact .object
      | enumeration type values note =>
        obtain ⟨_, _, _, rfl⟩ := follows_declareEnumeration inside
        exact .enumeration
      | union variants note =>
        obtain ⟨_, _, _, _, _, _, made⟩ := follows_bind_done inside
        obtain ⟨_, _, _, rfl⟩ := follows_declareUnion made
        exact .union
      | array items note =>
        obtain ⟨text, isItem, _, isArray⟩ :=
          declareArray_items items note _ _ s u first item inside named
        exact .array free isItem isArray
      | reference reference note =>
        obtain rfl : first = [⟨scope, reference, item⟩] := follows_ask inside
        exact .reference free (named _ (List.mem_singleton_self _))
      | primitive type format note =>
        obtain ⟨token, isToken, _, rfl⟩ := follows_declarePrimitive inside
        exact .primitive free isToken

/-! Targets of references -/

inductive HasItems (workspace : Workspace) (target : Target) : Schema → Option String → Prop where
  | array {items : Schema} {note : Annotation} {text : String}
    (isItem : workspace.IsItemType target.document [target.name] target.name items text) :
    HasItems workspace target (.array items note) (some text)
  | other {schema : Schema} (notArray : ∀ items note, schema ≠ .array items note) :
    HasItems workspace target schema none

theorem declare_free {schema : Schema} :
    workspace.declare scope name schema = workspace.declareNode scope [name] name schema := by
  simp [declare, declareUnder, unlessOpen]

theorem declare_items {target : Target} {schema : Schema}
    (follows : workspace.Follows (workspace.declare target.document target.name schema) s calls
      (.done result) t) (notReference : schema.isReference = false)
    (named : ∀ call ∈ calls, workspace.IsNamedFor call.scope call.reference call.answer.name) :
    workspace.HasItems target schema result.input.itemType? := by
  rw [declare_free] at follows
  cases schema with
  | object =>
    obtain ⟨_, _, _, _, _, _, made⟩ := follows_bind_done follows
    obtain ⟨_, _, _, rfl⟩ := follows_declareObject made
    exact .other nofun
  | enumeration =>
    obtain ⟨_, _, _, rfl⟩ := follows_declareEnumeration follows
    exact .other nofun
  | union =>
    obtain ⟨_, _, _, _, _, _, made⟩ := follows_bind_done follows
    obtain ⟨_, _, _, rfl⟩ := follows_declareUnion made
    exact .other nofun
  | array items note =>
    obtain ⟨text, isItem, known, _⟩ :=
      declareArray_items items note _ _ s t calls result follows named
    rw [known]
    exact .array isItem
  | reference => cases notReference
  | primitive =>
    obtain ⟨_, _, _, rfl⟩ := follows_declarePrimitive follows
    exact .other nofun

def Described (workspace : Workspace) (requests : List Request) (key : String)
    (expansion : Expansion) : Prop :=
  ∃ scope reference schema, key = workspace.key scope reference ∧
    Lists workspace.Serves (workspace.reach requests) scope reference ∧
    workspace.schemaAt scope reference = .ok (expansion.target, schema) ∧
    (schema.isReference = false → expansion.declaration.name = expansion.target.name ∧
      workspace.HasItems expansion.target schema expansion.declaration.input.itemType?)

/-- What is told of a reference in `scope`, where it leads to a node that is no reference: the name
of the node and the type of its items. Of an array that leads back to itself there may be no item
type. -/
def Tells (workspace : Workspace) (scope : Document) (reference type : String)
    (itemType : Option String) : Prop :=
  ∀ target schema, workspace.schemaAt scope reference = .ok (target, schema) →
    schema.isReference = false → type = target.name ∧
      (workspace.HasItems target schema itemType ∨ itemType = none ∧
        Relation.TransGen workspace.Edge (scope, reference) (scope, reference))

section Described
variable (served : ∀ request ∈ requests, request.IsServed workspace)
variable (apart : workspace.KeysApart (workspace.reach requests))
include served apart

theorem passes_described {start : Walk γ} (begins : workspace.Begins trace requests start s) :
    workspace.Passes start s (workspace.Described requests) := by
  intro α chain scope reference rest t u v target schema calls declared moment enters follows _
  have tracked := begins_tracks served (begins_moment begins moment)
  obtain ⟨found, _⟩ := readSchema_reads tracked.loaded enters.read
  have made := begins_made (begins_moment begins (.inner moment enters (.here _ _))) follows
  refine ⟨scope, reference, schema, rfl, tracked.asks.1.1, found.symm, fun notReference => ?_⟩
  have same : target.finish schema declared = declared.referring target.name := by
    simp [Target.finish, notReference]
  have named := declare_name follows notReference
  have items := declare_items follows notReference fun call member =>
    made_named served apart (made call member)
  rw [same]
  exact ⟨named, items⟩

theorem passesAlways_described :
    workspace.PassesAlways trace requests (workspace.Described requests) := by
  refine passesAlways_iff.mpr ?_
  rintro earlier request later rfl
  exact passes_described served apart (begins_walk trace earlier request later)

theorem made_tells {call : Call} (made : workspace.Made trace requests call) :
    workspace.Tells call.scope call.reference call.answer.name call.answer.input.itemType? := by
  intro target schema found notReference
  have named := name_of_end (made_named served apart made) found notReference
  obtain ⟨β, rest, u, v, begins, answers⟩ := made
  have tracks := begins_tracks served begins
  have known := visits_remembers (passesAlways_described served apart) (begins_visits begins)
  obtain ⟨_, answered⟩ := answers_remembers (passes_described served apart begins) answers
    tracks.loaded (.outer (.here _ _)) known
  refine ⟨named, ?_⟩
  obtain ⟨listed, reached⟩ := tracks.asks.1
  rcases answered with ⟨expansion, described, same⟩ | ⟨name, isOpen, same⟩
  · obtain ⟨a, q, other, key, isListed, leads, items⟩ := described
    obtain ⟨rfl, rfl⟩ := same_of_key apart listed isListed key
    cases found.symm.trans leads
    exact .inl (same ▸ (items notReference).2)
  · refine .inr ⟨same ▸ rfl, ?_⟩
    obtain ⟨before, after, split, _⟩ := List.lookup_eq_some_iff.mp isOpen
    have member : (workspace.key call.scope call.reference, name) ∈ u.opened := by simp [split]
    obtain ⟨a, q, isListed, key, back⟩ := reached _ member
    obtain ⟨rfl, rfl⟩ := same_of_key apart isListed listed key
    exact back

end Described

end Workspace

/-! Properties of generated types -/

structure Property.Tells (good : String → String → Option String → Prop)
    (member : String × Schema) (property : String × Property) : Prop where
  name : property.1 = member.1
  referenced : property.2.referenced = member.2.isReference
  told : ∀ reference note, member.2 = .reference reference note →
    good reference property.2.type property.2.itemType

mutual

inductive TemplateInput.Tells (good : String → String → Option String → Prop) :
    Schema → TemplateInput → Prop where
  | object {properties : List (String × Schema)} {required : List String} {note : Annotation}
    {input : ObjectInput} (told : List.Forall₂ (Property.Tells good) properties input.properties) :
    TemplateInput.Tells good (.object properties required note) (.object input)
  | enumeration {type : DataType} {values : List Literal} {note : Annotation} {input : EnumInput} :
    TemplateInput.Tells good (.enumeration type values note) (.enumeration input)
  | union {variants : List Schema} {note : Annotation} {input : UnionInput TemplateInput}
    (told : List.Forall₂ (Composition.Tells good) variants input.compositions) :
    TemplateInput.Tells good (.union variants note) (.union input)
  | plain {schema : Schema} {input : PlainInput} : TemplateInput.Tells good schema (.plain input)

inductive Composition.Tells (good : String → String → Option String → Prop) :
    Schema → Composition TemplateInput → Prop where
  | referenced {reference name : String} {note : Annotation} :
    Composition.Tells good (.reference reference note) (.referenced name)
  | inlined {schema : Schema} {type : Option String} {input : TemplateInput} {content : String}
    (told : TemplateInput.Tells good schema input) :
    Composition.Tells good schema (.inlined type input content)

end

namespace Workspace
variable {workspace : Workspace} {scope : Document} {good : String → String → Option String → Prop}

def TellCalls (scope : Document) (good : String → String → Option String → Prop)
    (calls : List Call) : Prop :=
  ∀ call ∈ calls, call.scope = scope →
    good call.reference call.answer.name call.answer.input.itemType?

theorem tellCalls_append {first second : List Call} :
    TellCalls scope good (first ++ second) ↔
      TellCalls scope good first ∧ TellCalls scope good second :=
  List.forall_mem_append

theorem declareProperties_tells {properties : List (String × Schema)}
    {ancestry required : List String}
    {s t : Session} {calls : List Call} {members : List Member}
    (follows : workspace.Follows (workspace.declareProperties scope ancestry properties) s calls
      (.done members) t) (told : TellCalls scope good calls) :
    List.Forall₂ (Property.Tells good) properties
      (members.map (Member.property required)) := by
  induction properties generalizing s t calls members with
  | nil =>
    obtain ⟨_, rfl, _⟩ := follows_done follows
    exact .nil
  | cons entry rest ih =>
    obtain ⟨property, schema⟩ := entry
    obtain ⟨declaration, first, others, u, rfl, one, later⟩ := follows_bind_done follows
    obtain ⟨tail, second, last, v, rfl, more, done⟩ := follows_bind_done later
    obtain ⟨rfl, rfl, _⟩ := follows_done done
    rw [List.append_nil, tellCalls_append] at told
    refine .cons ⟨rfl, rfl, ?_⟩ (ih more told.2)
    rintro reference note rfl
    obtain rfl : first = [⟨scope, reference, declaration⟩] := follows_ask one
    exact told.1 _ (List.mem_singleton_self _) rfl

mutual

theorem declareNode_tells : (schema : Schema) → (ancestry : List String) → (name : String) →
    (s t : Session) → (calls : List Call) → (result : Declaration) →
    workspace.Follows (workspace.declareNode scope ancestry name schema) s calls (.done result) t →
    schema.isReference = false → TellCalls scope good calls →
    TemplateInput.Tells good schema result.input
  | .object properties _ _, ancestry, _, s, t, calls, result, follows, _, told => by
    obtain ⟨members, first, second, u, rfl, inner, own⟩ := follows_bind_done follows
    obtain ⟨_, _, _, rfl⟩ := follows_declareObject own
    exact .object (declareProperties_tells inner (tellCalls_append.mp told).1)
  | .enumeration .., _, _, _, _, _, _, follows, _, _ => by
    obtain ⟨_, _, _, rfl⟩ := follows_declareEnumeration follows
    exact .enumeration
  | .union variants _, ancestry, name, s, t, calls, result, follows, _, told => by
    obtain ⟨branches, first, second, u, rfl, inner, own⟩ := follows_bind_done follows
    obtain ⟨_, _, _, rfl⟩ := follows_declareUnion own
    exact .union (declareVariants_tells variants ancestry name 1 s u first branches inner
      (tellCalls_append.mp told).1)
  | .array items _, ancestry, name, s, t, calls, result, follows, _, _ => by
    obtain ⟨item, _, _, _, _, _, own⟩ := follows_bind_done follows
    obtain ⟨_, _, _, rfl⟩ := follows_declareArray own
    exact .plain
  | .reference .., _, _, _, _, _, _, _, notReference, _ => nomatch notReference
  | .primitive .., _, _, _, _, _, _, follows, _, _ => by
    obtain ⟨_, _, _, rfl⟩ := follows_declarePrimitive follows
    exact .plain

theorem declareVariants_tells : (variants : List Schema) → (ancestry : List String) →
    (union : String) → (position : Nat) → (s t : Session) → (calls : List Call) →
    (branches : List Branch) →
    workspace.Follows (workspace.declareVariants scope ancestry union position variants) s calls
      (.done branches) t → TellCalls scope good calls →
    List.Forall₂ (Composition.Tells good) variants (branches.map Branch.composition)
  | [], _, _, _, _, _, _, _, follows, _ => by
    obtain ⟨_, rfl, _⟩ := follows_done follows
    exact .nil
  | schema :: rest, ancestry, union, position, s, t, calls, branches, follows, told => by
    obtain ⟨declaration, first, others, u, rfl, one, later⟩ := follows_bind_done follows
    obtain ⟨tail, second, last, v, rfl, more, done⟩ := follows_bind_done later
    obtain ⟨rfl, rfl, _⟩ := follows_done done
    rw [List.append_nil, tellCalls_append] at told
    refine .cons ?_ (declareVariants_tells rest ancestry union (position + 1) u v second tail more
      told.2)
    cases isReference : schema.isReference with
    | true =>
      cases schema with
      | reference target note => exact .referenced
      | _ => cases isReference
    | false =>
      have inlined : Branch.composition ⟨schema, declaration⟩ =
          .inlined (schema.declaredType?.map DataType.name) declaration.input
            declaration.content := by
        simp [Branch.composition, isReference]
      rw [inlined]
      rcases follows_declareBranch one with ⟨_, _, rfl⟩ | ⟨around, inner⟩
      · exact .inlined .plain
      · exact .inlined (declareNode_tells schema around _ s u first declaration inner isReference
          told.1)

end

/-- Every declaration of a generation only stands for a name or was made from a schema. Whatever
schema it was made from, each of its properties that is a reference tells of the reference: its type
is the name of the target, and its item type is that of the target. Only for an array that leads
back to itself the item type may be missing. -/
theorem referenced_properties_tell {trace : List Event} {earlier : List Request} {spec : Spec}
    {generation : Generation} {t : Session}
    (served : ∀ request ∈ earlier, request.IsServed workspace)
    (apart : workspace.KeysApart (workspace.reach (earlier ++ [.all spec])))
    (run : (workspace.declareAll spec).run (workspace.after trace earlier) = (.ok generation, t)) :
    ∀ name declaration, generation.Holds name declaration →
      (declaration = .pending name ∨ ∃ scope schema calls,
        Generated workspace (workspace.Begins trace (earlier ++ [.all spec])) scope name schema
          calls declaration) ∧
      ∀ scope schema calls,
        Generated workspace (workspace.Begins trace (earlier ++ [.all spec])) scope name schema
          calls declaration →
        TemplateInput.Tells (workspace.Tells scope) schema declaration.input := by
  intro name declaration holds
  have allServed : ∀ request ∈ earlier ++ [.all spec], request.IsServed workspace := by
    simpa [or_imp, forall_and, Request.IsServed] using served
  refine ⟨holds_generated run holds, ?_⟩
  rintro scope schema calls ⟨s, declared, u, begins, notReference, follows, rfl⟩
  have told : TellCalls scope (workspace.Tells scope) calls := by
    rintro call member rfl
    exact made_tells allServed apart (begins_made begins follows call member)
  rw [declare_free] at follows
  exact declareNode_tells schema _ name s u calls declared follows notReference told

end Workspace

namespace WalkOrder
open SameName (mapping single renderer)
open ChainedTypes (Types objectOf body spec)
open Workspace

/-! A forest has trees and trees are an array of forests. The walk comes to them by the one or by
the other. -/

def arrayOf (name reference : String) : String × Yaml.Value :=
  (name, mapping [("type", .string "array"), ("items", single "$ref" reference)])

def otherTypes : Types := [
  objectOf "Start" [("trees", "#/types/Trees")], arrayOf "Trees" "#/types/Forest",
  objectOf "Forest" [("trees", "#/types/Trees")]]

def mainTypes (first : String) : Types :=
  [objectOf "Main" [("start", "other.yaml#/types/" ++ first)]]

def other : Document := ⟨Path.ofString "/other.yaml", body otherTypes⟩

def workspace (first : String) : Workspace where
  root := ⟨Path.ofString "/spec.yaml", body (mainTypes first)⟩
  library := { documents := [(other.path, .ok other.body)] }
  tokens := Table.ofList [("array", .direct (itemMark ++ "[]"))]
  renderer := renderer

def run (first : String) : Except Failure Generation × Session :=
  ((workspace first).declareAll (spec (mainTypes first))).run ((workspace first).after [] [])

def told (declaration : Declaration) : List (String × Option String) :=
  match declaration.input with
  | .object input => input.properties.map fun (_, property) => (property.type, property.itemType)
  | _ => []

def forest (generation : Generation) : Option (List (String × Option String)) :=
  (declarationAt generation.groups "Other" "Forest").map told

theorem forests_are_told : ∃ generation t, run "Start" = (.ok generation, t) ∧
    forest generation = some [("Trees", none)] ∧
    ∀ name declaration, generation.Holds name declaration →
      (declaration = .pending name ∨ ∃ scope schema calls,
        Generated (workspace "Start")
          ((workspace "Start").Begins [] [.all (spec (mainTypes "Start"))]) scope name schema calls
          declaration) ∧
      ∀ scope schema calls,
        Generated (workspace "Start")
          ((workspace "Start").Begins [] [.all (spec (mainTypes "Start"))]) scope name schema calls
          declaration →
        TemplateInput.Tells ((workspace "Start").Tells scope) schema declaration.input := by
  have found : (run "Start").1.toOption.bind forest = some [("Trees", none)] := by decide +kernel
  have apart : (workspace "Start").KeysApart
      ((workspace "Start").reach [.all (spec (mainTypes "Start"))]) := by
    unfold KeysApart
    decide +kernel
  have served : ∀ request ∈ ([] : List Request), request.IsServed (workspace "Start") := nofun
  rcases start : run "Start" with ⟨failure | generation, t⟩
  · rw [start] at found
    cases found
  · rw [start] at found
    refine ⟨generation, t, rfl, found, ?_⟩
    unfold run at start
    exact referenced_properties_tell served apart start

/-- The property `trees` of `Forest` refers to an array of forests. It has the item type where the
walk begins with the forest, and lacks it where the walk comes to the trees before. -/
theorem item_type_depends_on_the_walk :
    (∀ first, ∃ target note inner, (workspace first).schemaAt other "#/types/Trees" =
      .ok (target, .array (.reference "#/types/Forest" inner) note)) ∧
    (run "Forest").1.toOption.bind forest = some [("Trees", some "Forest")] ∧
    (run "Start").1.toOption.bind forest = some [("Trees", none)] := by
  refine ⟨fun first => ⟨_, {}, {}, rfl⟩, ?_, ?_⟩ <;> decide +kernel

end WalkOrder

end Typewright
