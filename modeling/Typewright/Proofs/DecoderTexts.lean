import Typewright.Proofs.DecoderTemplates
import Typewright.Proofs.InlineNodes
import Typewright.Proofs.Printing

/-!
The texts of types with decoders, said without templates: which decoder the text of a type calls
for each property and branch, and what stands around these calls.
-/
namespace Typewright

open Template

inductive Decoding where
  | direct (callee : String)
  | items (callee : String)
deriving DecidableEq

namespace Decoding

def text : Decoding → String
  | direct callee => String.join ["decode", callee]
  | items callee => String.join ["((value: unknown) => decodeArray(value, decode", callee, "))"]

def callees : Decoding → List String
  | direct callee => [callee]
  | items callee => ["Array", callee]

end Decoding

namespace Property

def isDirect (property : Property) : Bool :=
  (property.referenced || property.primitiveType == "object") ||
    Text.contains property.type "Enum"

def decoding (property : Property) : Evaluated Decoding :=
  if property.isDirect then .ok (.direct property.type)
  else if property.primitiveType == "array" then
    match property.itemType with
    | some item => .ok (.items (Text.pascalCase item))
    | none => .error .wrongKind
  else .ok (.direct (Text.pascalCase property.primitiveType))

def callees (property : Property) : List String :=
  match property.decoding with
  | .ok decoding => decoding.callees
  | .error _ => []

end Property

namespace Composition

def written (write : String → String) : Composition TemplateInput → String
  | .referenced name => name
  | .inlined _ input _ => write input.type

def callee : Composition TemplateInput → String := written Text.pascalCase

end Composition

/-- The types whose decoders are called or passed on in the text of an input. -/
def TemplateInput.callees : TemplateInput → List String
  | object input => input.properties.flatMap fun member => member.2.callees
  | union input => input.compositions.map Composition.callee
  | enumeration _ => []
  | plain _ => []

namespace DecoderTexts

/-- What surrounds a description that is there and not empty. -/
def described (before after : String) : Option String → String
  | some text => if text.isEmpty then "" else String.join [before, text, after]
  | none => ""

def commentText (note : Annotation) : String :=
  described "/**\n * " "\n */\n" note.description

def typeTexts (member : String × Property) : List String := [
  described "\n  /** " " */" member.2.note.description, "\n  ", member.1, ": ", member.2.type,
  if !member.2.required then " | null" else "", ";"]

def callTexts (member : String × Property) : List (Evaluated String) := [
  .ok "\n    const decoded", .ok (Text.pascalCase member.1), .ok " = ",
  member.2.decoding.map Decoding.text, .ok "(rawInput['", .ok member.1, .ok "']);"]

def checkTexts (member : String × Property) : List String := [
  if member.2.required then
    String.join ["\n    if (decoded", Text.pascalCase member.1,
      " === null) \x7b\n      return null;\n    \x7d"]
  else ""]

def resultTexts (member : String × Property) : List String :=
  ["\n      ", member.1, ": decoded", Text.pascalCase member.1, ","]

def forEach (texts : α → List String) (items : List α) : String :=
  String.join (items.map fun item => String.join (texts item))

def objectTexts (input : ObjectInput) : List (Evaluated String) := [
  .ok (commentText input.note), .ok "export type ", .ok input.name, .ok " = \x7b",
  .ok (forEach typeTexts input.properties), .ok "\n\x7d;\n\nexport function decode",
  .ok input.name, .ok "(rawInput: unknown): ", .ok input.name,
  .ok " | null \x7b\n  if (isJSON(rawInput)) \x7b",
  inOrder (input.properties.map fun member => inOrder (callTexts member)),
  .ok (forEach checkTexts input.properties), .ok "\n    return \x7b",
  .ok (forEach resultTexts input.properties),
  .ok "\n    \x7d;\n  \x7d\n  return null;\n\x7d\n\n"]

def barBefore (index : Nat) : String := if index = 0 then "" else " | "

def branchCallTexts (index : Nat) (branch : Composition TemplateInput) : List String :=
  let position := toString ((index : Int) + 1)
  ["\n  const result", position, " = decode", branch.callee, "(rawInput);\n  if (result", position,
    " !== null) \x7b\n    return result", position, ";\n  \x7d"]

def forEachAt (texts : Nat → α → List String) (items : List α) : String :=
  String.join (items.mapIdx fun index item => String.join (texts index item))

def unionTexts (input : UnionInput TemplateInput) : List String := [
  commentText input.note, "export type ", input.name, " = ",
  forEachAt (fun index branch => [barBefore index, branch.written id]) input.compositions,
  ";\n\nexport function decode", input.name, "(rawInput: unknown): ", input.name, " | null \x7b",
  forEachAt branchCallTexts input.compositions, "\n  return null;\n\x7d\n\n"]

def enumerationTexts (input : EnumInput) : List String := [
  commentText input.note, "export type ", input.name, " = ",
  forEachAt (fun index value => [barBefore index, value.toJson.write]) input.values,
  ";\n\nexport function decode", input.name, "(rawInput: unknown): ", input.name,
  " | null \x7b\n  switch (rawInput) \x7b",
  forEachAt (fun _ value => ["\n    case ", value.toJson.write, ":"]) input.values,
  "\n      return rawInput;\n  \x7d\n  return null;\n\x7d\n\n"]

def inputText : TemplateInput → Evaluated String
  | .object input => inOrder (objectTexts input)
  | .enumeration input => .ok (String.join (enumerationTexts input))
  | .union input => .ok (String.join (unionTexts input))
  | .plain _ => .ok ""

def importTexts (item : Import) : List String :=
  ["import \x7b type ", item.name, ", decode", item.name, " \x7d from '", item.specifier, "';\n"]

/-- The functions for decoders that every file imports. -/
def sharedDecoders : List String := ["Array", "Boolean", "Number", "String"]

def headerTexts : List String :=
  ["import \x7b isJSON", String.join (sharedDecoders.map fun name => ", decode" ++ name),
    " \x7d from 'type-decoder';\n"]

def fileTexts (input : FileInput) : List String := [
  String.join headerTexts, forEachAt (fun _ => importTexts) input.imports, "\n", input.content,
  "\n"]

end DecoderTexts

namespace Template.Decoders
open DecoderTexts

/-! The parts of templates -/

section Parts
variable {scope : Scope}

theorem prints_described {before after : String} {place : Place} {description : Option String}
    (found : placeValue scope place = some (Json.ofOption .string description)) :
    Prints scope (.cond [(.ofOperand (.lookup place),
      [.text before, .output (.ofOperand (.lookup place)), .text after])] [])
      (.ok (described before after description)) := by
  have written : Prints scope (.output (.ofOperand (.lookup place)))
      (.ok (shown (Json.ofOption .string description))) := prints_output (value_of_place found)
  have prints := prints_when [before, _, after] (condition_of_place false found)
    (.cons (prints_text before) (.cons written (.cons (prints_text after) .nil)))
  cases description with
  | none => exact prints
  | some text =>
    unfold described
    cases empty : text.isEmpty <;>
      simpa [Expr.ofOperand, Json.ofOption, isTrue, shown, empty] using prints

theorem prints_through (keys : List String) {name text : String}
    (found : placeValue scope (.mk name (keys.map .key)) = some (.string text)) :
    Prints scope (.output (through "pascal_case" name keys)) (.ok (Text.pascalCase text)) :=
  prints_output (value_through _ found (by decide) (by decide))

end Parts

/-! Properties -/

structure ShowsProperty (member : String × Property) (entry : String × Json) : Prop where
  name : entry.1 = member.1
  type : child? "type" entry.2 = some (.string member.2.type)
  required : child? "required" entry.2 = some (.bool member.2.required)
  referenced : child? "referenced" entry.2 = some (.bool member.2.referenced)
  primitiveType : child? "primitiveType" entry.2 = some (.string member.2.primitiveType)
  itemType : child? "composerType" entry.2 = some (Json.ofOption .string member.2.itemType)
  description : child? "description" entry.2 =
    some (Json.ofOption .string member.2.note.description)

theorem note_description {note : Annotation} {members : List (String × Json)}
    (given : note.members? = some members) :
    Pairs.find? "description" members = some (Json.ofOption .string note.description) := by
  obtain ⟨_, _, same⟩ := Option.bind_eq_some_iff.mp given
  cases same
  rfl

theorem showsProperty_of_toJson? {member : String × Property} {json : Json}
    (given : member.2.toJson? = some json) : ShowsProperty member (member.1, json) := by
  obtain ⟨notes, noted, same⟩ := Option.bind_eq_some_iff.mp given
  cases same
  have described := note_description noted
  exact ⟨rfl, rfl, rfl, rfl, rfl, rfl, by simpa [child?, Pairs.find?] using described⟩

theorem forall₂_of_mapM {f : α → Option β} {items : List α} {results : List β}
    (given : items.mapM f = some results) :
    List.Forall₂ (fun a b => f a = some b) items results := by
  induction items generalizing results with
  | nil =>
    cases given
    exact .nil
  | cons item rest ih =>
    rw [List.mapM_cons] at given
    obtain ⟨first, one, later⟩ := Option.bind_eq_some_iff.mp given
    obtain ⟨others, more, same⟩ := Option.bind_eq_some_iff.mp later
    cases same
    exact .cons one (ih more)

structure ShowsObject (input : ObjectInput) (context entries : List (String × Json)) : Prop where
  properties : List.Forall₂ ShowsProperty input.properties entries
  listed : Pairs.find? "properties" context = some (.object entries)
  name : Pairs.find? "typeName" context = some (.string input.name)
  description : Pairs.find? "description" context =
    some (Json.ofOption .string input.note.description)

theorem showsObject_of_members? {input : ObjectInput} {context : List (String × Json)}
    (given : input.members? .object = some context) :
    ∃ entries, ShowsObject input context entries := by
  obtain ⟨entries, mapped, later⟩ := Option.bind_eq_some_iff.mp given
  obtain ⟨notes, noted, same⟩ := Option.bind_eq_some_iff.mp later
  cases same
  have described := note_description noted
  refine ⟨entries, ?_, rfl, rfl, by simpa [Pairs.find?] using described⟩
  refine (forall₂_of_mapM mapped).imp ?_
  intro member entry shown
  obtain ⟨json, converted, rfl⟩ := Option.map_eq_some_iff.mp shown
  exact showsProperty_of_toJson? converted

section Properties
variable {scope : Scope} {index count : Nat} {member : String × Property} {entry : String × Json}

def propertyRound (index count : Nat) (entry : String × Json) : Round :=
  ⟨some "name", "property", entry.1, entry.2, index, count⟩

theorem place_of_property {key : String} {value : Json} (has : child? key entry.2 = some value) :
    placeValue (scope.inRound (propertyRound index count entry)) (.mk "property" [.key key]) =
      some value :=
  place_of_round [key] (by simp [propertyRound])
    (by simpa [descend, propertyRound] using has)

theorem place_of_name (shows : ShowsProperty member entry) :
    placeValue (scope.inRound (propertyRound index count entry)) (.mk "name" []) =
      some (.string member.1) :=
  shows.name ▸ place_of_key (by decide) rfl (by simp [propertyRound])

theorem prints_pascalName (shows : ShowsProperty member entry) :
    Prints (scope.inRound (propertyRound index count entry)) pascalName
      (.ok (Text.pascalCase member.1)) :=
  prints_through [] (place_of_name shows)

theorem prints_eachProperty {body : List Node} {properties : List (String × Property)}
    {entries : List (String × Json)} {texts : String × Property → List (Evaluated String)}
    (listed : placeValue scope (.mk "properties" []) = some (.object entries))
    (shows : List.Forall₂ ShowsProperty properties entries)
    (prints : ∀ index count member entry, ShowsProperty member entry →
      List.Forall₂ (Prints (scope.inRound (propertyRound index count entry))) body
        (texts member)) :
    Prints scope (eachProperty body)
      (inOrder (properties.map fun member => inOrder (texts member))) := by
  have goes : loopRounds scope (some "name") "property" (named "properties") =
      .ok (rounds (some "name") "property" entries) := by
    have value := value_of_place listed
    simp only [loopRounds, named, Expr.ofOperand, isContainer, if_true] at value ⊢
    rw [value]
    rfl
  have each := prints_each (fun _ => texts) goes shows
    fun index member entry shows => prints index entries.length member entry shows
  have unindexed : (properties.mapIdx fun _ member => inOrder (texts member)) =
      properties.map fun member => inOrder (texts member) := List.ext_getElem (by simp) (by simp)
  exact unindexed ▸ each

theorem prints_eachProperty_ok {body : List Node} {properties : List (String × Property)}
    {entries : List (String × Json)} {texts : String × Property → List String}
    (listed : placeValue scope (.mk "properties" []) = some (.object entries))
    (shows : List.Forall₂ ShowsProperty properties entries)
    (prints : ∀ index count member entry, ShowsProperty member entry →
      List.Forall₂ (Prints (scope.inRound (propertyRound index count entry))) body
        ((texts member).map .ok)) :
    Prints scope (eachProperty body) (.ok (forEach texts properties)) := by
  have each := prints_eachProperty listed shows prints
  simp only [inOrder_ok] at each
  have joined := inOrder_ok (properties.map fun member => String.join (texts member))
  rw [List.map_map] at joined
  exact joined ▸ each

theorem condition_isDirect (shows : ShowsProperty member entry) :
    (meaning (scope.inRound (propertyRound index count entry)) isDirect).condition =
      .ok member.2.isDirect :=
  condition_or
    (condition_or (condition_of_value (value_of_place (place_of_property shows.referenced)))
      (condition_equal (value_of_place (place_of_property shows.primitiveType))))
    (condition_contains (value_of_place (place_of_property shows.type)))

theorem prints_decoderCall (shows : ShowsProperty member entry) :
    Prints (scope.inRound (propertyRound index count entry)) decoderCall
      (member.2.decoding.map Decoding.text) := by
  let inside := scope.inRound (propertyRound index count entry)
  have type : placeValue inside _ = _ := place_of_property shows.type
  have declared : placeValue inside _ = _ := place_of_property shows.primitiveType
  have items : placeValue inside _ = _ := place_of_property shows.itemType
  have direct : (meaning inside isDirect).condition = _ := condition_isDirect shows
  have array : (meaning inside _).condition = .ok (_ == "array") :=
    condition_equal (value_of_place declared)
  unfold Property.decoding
  cases isDirect : member.2.isDirect with
  | true =>
    rw [isDirect] at direct
    refine prints_same
      (prints_branch direct (.cons (prints_text _) (.cons (prints_place type) .nil))) ?_
    exact inOrder_ok ["decode", member.2.type]
  | false =>
    rw [isDirect] at direct
    refine prints_later direct ?_
    cases isArray : member.2.primitiveType == "array" with
    | true =>
      rw [isArray] at array
      have item := prints_output (value_through "pascal_case" items (by decide) (by decide))
      refine prints_same
        (prints_branch array (.cons (prints_text _) (.cons item (.cons (prints_text _) .nil)))) ?_
      cases given : member.2.itemType with
      | none => rfl
      | some name =>
        exact inOrder_ok ["((value: unknown) => decodeArray(value, decode",
          Text.pascalCase name, "))"]
    | false =>
      rw [isArray] at array
      have word := prints_through ["primitiveType"] declared
      refine prints_same (prints_later array
        (prints_otherwise (.cons (prints_text _) (.cons word .nil)))) ?_
      exact inOrder_ok ["decode", Text.pascalCase member.2.primitiveType]

end Properties

section Object
variable {input : ObjectInput} {context entries : List (String × Json)}

theorem prints_propertyType (shows : ShowsObject input context entries) :
    Prints { context } propertyType (.ok (forEach typeTexts input.properties)) := by
  refine prints_eachProperty_ok (place_of_context shows.listed) shows.properties ?_
  intro index count member entry shows
  let inside := ({ context } : Scope).inRound (propertyRound index count entry)
  have required : (meaning inside _).condition = _ :=
    condition_of_place true (place_of_property shows.required)
  have optional := prints_when [" | null"] required (.cons (prints_text _) .nil)
  refine .cons (prints_described (place_of_property shows.description)) <|
    .cons (prints_text _) <| .cons (prints_place (place_of_name shows)) <|
    .cons (prints_text _) <| .cons (prints_place (place_of_property shows.type)) <|
    .cons (prints_same optional ?_) <| .cons (prints_text _) .nil
  cases member.2.required <;> rfl

theorem prints_propertyDecoder (shows : ShowsObject input context entries) :
    Prints { context } propertyDecoder
      (inOrder (input.properties.map fun member => inOrder (callTexts member))) := by
  refine prints_eachProperty (place_of_context shows.listed) shows.properties ?_
  intro index count member entry shows
  exact .cons (prints_text _) <| .cons (prints_pascalName shows) <| .cons (prints_text _) <|
    .cons (prints_decoderCall shows) <| .cons (prints_text _) <|
    .cons (prints_place (place_of_name shows)) <| .cons (prints_text _) .nil

theorem prints_propertyCheck (shows : ShowsObject input context entries) :
    Prints { context } propertyCheck (.ok (forEach checkTexts input.properties)) := by
  refine prints_eachProperty_ok (place_of_context shows.listed) shows.properties ?_
  intro index count member entry shows
  let inside := ({ context } : Scope).inRound (propertyRound index count entry)
  have required : (meaning inside _).condition = _ :=
    condition_of_value (value_of_place (place_of_property shows.required))
  exact .cons (prints_when [_, _, _] required (.cons (prints_text _) <|
    .cons (prints_pascalName shows) <| .cons (prints_text _) .nil)) .nil

theorem prints_propertyResult (shows : ShowsObject input context entries) :
    Prints { context } propertyResult (.ok (forEach resultTexts input.properties)) := by
  refine prints_eachProperty_ok (place_of_context shows.listed) shows.properties ?_
  intro index count member entry shows
  exact .cons (prints_text _) <| .cons (prints_place (place_of_name shows)) <|
    .cons (prints_text _) <| .cons (prints_pascalName shows) <| .cons (prints_text _) .nil

theorem prints_object (shows : ShowsObject input context entries) :
    List.Forall₂ (Prints { context }) object (objectTexts input) := by
  have name := prints_place (place_of_context shows.name)
  exact .cons (prints_described (place_of_context shows.description)) <|
    .cons (prints_text _) <| .cons name <| .cons (prints_text _) <|
    .cons (prints_propertyType shows) <| .cons (prints_text _) <|
    .cons name <| .cons (prints_text _) <| .cons name <| .cons (prints_text _) <|
    .cons (prints_propertyDecoder shows) <| .cons (prints_propertyCheck shows) <|
    .cons (prints_text _) <| .cons (prints_propertyResult shows) <| .cons (prints_text _) .nil

end Object

/-! Branches -/

inductive ShowsBranch : Composition TemplateInput → String × Json → Prop where
  | referenced {name key : String} {json : Json}
    (source : descend ["source"] json = some (.string "referenced"))
    (type : descend ["referencedType"] json = some (.string name)) :
    ShowsBranch (.referenced name) (key, json)
  | inlined {declaredType : Option String} {input : TemplateInput} {content key : String}
    {json : Json} (source : descend ["source"] json = some (.string "inline"))
    (type : descend ["templateInput", "type"] json = some (.string input.type)) :
    ShowsBranch (.inlined declaredType input content) (key, json)

theorem type_of_members? {arrange : List (String × Json) → Json} {input : TemplateInput}
    {members : List (String × Json)} (given : input.members? arrange = some members) :
    Pairs.find? "type" members = some (.string input.type) := by
  cases input with
  | object input =>
    simp only [TemplateInput.members?, ObjectInput.members?] at given
    obtain ⟨inner, made, same⟩ := Option.bind_eq_some_iff.mp given
    obtain ⟨_, _, later⟩ := Option.bind_eq_some_iff.mp made
    obtain ⟨_, _, last⟩ := Option.bind_eq_some_iff.mp later
    cases last
    cases same
    rfl
  | enumeration input =>
    simp only [TemplateInput.members?, EnumInput.members?] at given
    obtain ⟨inner, made, same⟩ := Option.bind_eq_some_iff.mp given
    obtain ⟨_, _, last⟩ := Option.bind_eq_some_iff.mp made
    cases last
    cases same
    rfl
  | union input =>
    obtain ⟨name, type, compositions, note⟩ := input
    simp only [TemplateInput.members?, TemplateInput.unionMembers?] at given
    obtain ⟨inner, made, same⟩ := Option.bind_eq_some_iff.mp given
    obtain ⟨_, _, later⟩ := Option.bind_eq_some_iff.mp made
    obtain ⟨_, _, last⟩ := Option.bind_eq_some_iff.mp later
    cases last
    cases same
    rfl
  | plain input =>
    simp only [TemplateInput.members?, PlainInput.members?] at given
    obtain ⟨inner, made, same⟩ := Option.bind_eq_some_iff.mp given
    obtain ⟨_, _, last⟩ := Option.bind_eq_some_iff.mp made
    cases last
    cases same
    rfl

theorem showsBranch_of_composition? {arrange : List (String × Json) → Json}
    {branch : Composition TemplateInput} {json : Json}
    (given : TemplateInput.composition? arrange branch = some json) :
    ShowsBranch branch ("", json) := by
  cases branch with
  | referenced name =>
    simp only [TemplateInput.composition?] at given
    cases given
    exact .referenced rfl rfl
  | inlined declaredType input content =>
    simp only [TemplateInput.composition?] at given
    obtain ⟨members, made, same⟩ := Option.bind_eq_some_iff.mp given
    cases same
    have type := type_of_members? made
    exact .inlined rfl (by simpa [descend, child?, Pairs.find?] using type)

theorem showsBranch_of_compositions? {arrange : List (String × Json) → Json}
    {branches : List (Composition TemplateInput)} {items : List Json}
    (given : TemplateInput.compositions? arrange branches = some items) :
    List.Forall₂ ShowsBranch branches (items.map fun item => ("", item)) := by
  induction branches generalizing items with
  | nil =>
    simp only [TemplateInput.compositions?] at given
    cases given
    exact .nil
  | cons branch rest ih =>
    simp only [TemplateInput.compositions?] at given
    obtain ⟨first, one, later⟩ := Option.bind_eq_some_iff.mp given
    obtain ⟨others, more, same⟩ := Option.bind_eq_some_iff.mp later
    cases same
    exact .cons (showsBranch_of_composition? one) (ih more)

section Items
variable {scope : Scope} {valueName name : String} {items : List Json} {body : List Node}

def itemRound (valueName : String) (index count : Nat) (entry : String × Json) : Round :=
  ⟨none, valueName, entry.1, entry.2, index, count⟩

theorem prints_eachItem {shows : α → String × Json → Prop} {values : List α}
    {texts : Nat → α → List String}
    (listed : placeValue scope (.mk name []) = some (.array items))
    (related : List.Forall₂ shows values (items.map fun item => ("", item)))
    (prints : ∀ index count value entry, shows value entry →
      List.Forall₂ (Prints (scope.inRound (itemRound valueName index count entry))) body
        ((texts index value).map .ok)) :
    Prints scope (.loop none valueName (named name) body []) (.ok (forEachAt texts values)) := by
  have goes : loopRounds scope none valueName (named name) =
      .ok (rounds none valueName (items.map fun item => ("", item))) := by
    have value := value_of_place listed
    simp only [loopRounds, named, Expr.ofOperand, isContainer, if_true] at value ⊢
    rw [value]
    rfl
  have each := prints_each (fun index value => (texts index value).map .ok) goes related
    fun index value entry shows => prints index _ value entry shows
  simp only [inOrder_ok] at each
  have joined := inOrder_ok (values.mapIdx fun index value => String.join (texts index value))
  have mapped : (values.mapIdx fun index value => String.join (texts index value)).map
      (Except.ok (ε := TemplateFault)) =
      values.mapIdx fun index value => .ok (String.join (texts index value)) :=
    List.ext_getElem (by simp) (by simp)
  exact prints_same each (mapped ▸ joined)

theorem prints_notFirst {index count : Nat} {entry : String × Json} :
    Prints (scope.inRound (itemRound valueName index count entry)) notFirst
      (.ok (barBefore index)) := by
  have first : placeValue (scope.inRound (itemRound valueName index count entry))
      (.mk "loop" [.key "first"]) = some (.bool (index == 0)) := place_of_fact rfl
  refine prints_same (prints_when [" | "] (condition_of_place true first)
    (.cons (prints_text _) .nil)) ?_
  unfold barBefore
  cases index <;> rfl

theorem prints_loopIndex {index count : Nat} {entry : String × Json} :
    Prints (scope.inRound (itemRound valueName index count entry)) loopIndex
      (.ok (toString ((index : Int) + 1))) := by
  have position : placeValue (scope.inRound (itemRound valueName index count entry))
      (.mk "loop" [.key "index"]) = some (.int (index + 1)) := place_of_fact rfl
  exact prints_output (value_of_place position)

end Items

section Branches
variable {scope : Scope} {index count : Nat} {branch : Composition TemplateInput}
variable {entry : String × Json}

theorem place_of_branch (keys : List String) {value : Json}
    (inside : descend keys entry.2 = some value) :
    placeValue (scope.inRound (itemRound "composition" index count entry))
      (.mk "composition" (keys.map .key)) = some value :=
  place_of_round keys (by simp [itemRound]) inside

theorem prints_branchName {otherwise : Expr} {write : String → String}
    (shows : ShowsBranch branch entry)
    (prints : ∀ type, placeValue (scope.inRound (itemRound "composition" index count entry))
      (.mk "composition" [.key "templateInput", .key "type"]) = some (.string type) →
      Prints (scope.inRound (itemRound "composition" index count entry)) (.output otherwise)
        (.ok (write type))) :
    Prints (scope.inRound (itemRound "composition" index count entry)) (branchName otherwise)
      (.ok (branch.written write)) := by
  let inside := scope.inRound (itemRound "composition" index count entry)
  cases shows with
  | referenced source type =>
    have kind : placeValue inside _ = _ := place_of_branch ["source"] source
    have name : placeValue inside _ = _ := place_of_branch ["referencedType"] type
    exact prints_same (prints_branch (condition_equal (value_of_place kind))
      (.cons (prints_place name) .nil)) (inOrder_ok [_])
  | inlined source type =>
    have kind : placeValue inside _ = _ := place_of_branch ["source"] source
    have type := prints _ (place_of_branch ["templateInput", "type"] type)
    exact prints_same (prints_later (condition_equal (value_of_place kind))
      (prints_otherwise (.cons type .nil))) (inOrder_ok [_])

end Branches

section Union
variable {input : UnionInput TemplateInput} {context : List (String × Json)} {items : List Json}

structure ShowsUnion (input : UnionInput TemplateInput) (context : List (String × Json))
    (items : List Json) : Prop where
  branches : List.Forall₂ ShowsBranch input.compositions (items.map fun item => ("", item))
  listed : Pairs.find? "compositions" context = some (.array items)
  name : Pairs.find? "typeName" context = some (.string input.name)
  description : Pairs.find? "description" context =
    some (Json.ofOption .string input.note.description)

theorem showsUnion_of_members?
    (given : TemplateInput.unionMembers? .object input = some context) :
    ∃ items, ShowsUnion input context items := by
  obtain ⟨name, type, compositions, note⟩ := input
  simp only [TemplateInput.unionMembers?] at given
  obtain ⟨items, made, later⟩ := Option.bind_eq_some_iff.mp given
  obtain ⟨notes, noted, same⟩ := Option.bind_eq_some_iff.mp later
  cases same
  have described := note_description noted
  exact ⟨items, showsBranch_of_compositions? made, rfl, rfl, by simpa [Pairs.find?] using described⟩

theorem prints_union (shows : ShowsUnion input context items) :
    List.Forall₂ (Prints { context }) union ((unionTexts input).map .ok) := by
  have name := prints_place (place_of_context shows.name)
  refine .cons (prints_described (place_of_context shows.description)) <|
    .cons (prints_text _) <| .cons name <| .cons (prints_text _) <|
    .cons (prints_eachItem (place_of_context shows.listed) shows.branches ?_) <|
    .cons (prints_text _) <| .cons name <| .cons (prints_text _) <| .cons name <|
    .cons (prints_text _) <|
    .cons (prints_eachItem (place_of_context shows.listed) shows.branches ?_) <|
    .cons (prints_text _) .nil
  · intro index count branch entry shows
    exact .cons prints_notFirst <|
      .cons (prints_branchName shows fun _ => prints_place) .nil
  · intro index count branch entry shows
    exact .cons (prints_text _) <| .cons prints_loopIndex <| .cons (prints_text _) <|
      .cons (prints_branchName shows fun _ =>
        prints_through ["templateInput", "type"]) <|
      .cons (prints_text _) <| .cons prints_loopIndex <| .cons (prints_text _) <|
      .cons prints_loopIndex <| .cons (prints_text _) .nil

end Union

section Values
variable {input : EnumInput} {context : List (String × Json)}

structure ShowsEnumeration (input : EnumInput) (context : List (String × Json)) : Prop where
  listed : Pairs.find? "values" context = some (.array (input.values.map Literal.toJson))
  name : Pairs.find? "typeName" context = some (.string input.name)
  description : Pairs.find? "description" context =
    some (Json.ofOption .string input.note.description)

theorem showsEnumeration_of_members? (given : input.members? = some context) :
    ShowsEnumeration input context := by
  obtain ⟨notes, noted, same⟩ := Option.bind_eq_some_iff.mp given
  cases same
  have described := note_description noted
  exact ⟨rfl, rfl, by simpa [Pairs.find?] using described⟩

theorem shows_all (values : List α) (json : α → Json) :
    List.Forall₂ (fun value entry => entry = ("", json value)) values
      ((values.map json).map fun item => ("", item)) := by
  simp [List.forall₂_map_right_iff, List.forall₂_same]

theorem prints_enumeration (shows : ShowsEnumeration input context) :
    List.Forall₂ (Prints { context }) enumeration ((enumerationTexts input).map .ok) := by
  have name := prints_place (place_of_context shows.name)
  have all := shows_all input.values Literal.toJson
  have value (index count : Nat) (value : Literal) :
      Prints (({ context } : Scope).inRound
        (itemRound "value" index count ("", value.toJson))) encodedValue
        (.ok value.toJson.write) :=
    prints_output (value_through _ (place_of_round [] (by simp [itemRound]) rfl)
      (by decide) (by decide))
  refine .cons (prints_described (place_of_context shows.description)) <|
    .cons (prints_text _) <| .cons name <| .cons (prints_text _) <|
    .cons (prints_eachItem (place_of_context shows.listed) all ?_) <|
    .cons (prints_text _) <| .cons name <| .cons (prints_text _) <| .cons name <|
    .cons (prints_text _) <|
    .cons (prints_eachItem (place_of_context shows.listed) all ?_) <|
    .cons (prints_text _) .nil
  · rintro index count literal entry rfl
    exact .cons prints_notFirst <| .cons (value index count literal) .nil
  · rintro index count literal entry rfl
    exact .cons (prints_text _) <| .cons (value index count literal) <| .cons (prints_text _) .nil

end Values

theorem prints_file (input : FileInput) :
    List.Forall₂ (Prints { context := input.members }) file ((fileTexts input).map .ok) := by
  have listed : placeValue { context := input.members } (.mk "referencedTypes" []) =
      some (.array (input.imports.map Import.toJson)) := place_of_context rfl
  have content : placeValue { context := input.members } (.mk "typesContent" []) =
      some (.string input.content) := place_of_context rfl
  refine .cons (prints_text header) <|
    .cons (prints_eachItem listed (shows_all input.imports Import.toJson) ?_) <|
    .cons (prints_text _) <| .cons (prints_place content) <| .cons (prints_text _) .nil
  rintro index count item entry rfl
  let inside := ({ context := input.members } : Scope).inRound
    (itemRound "reference" index count ("", item.toJson))
  have name : placeValue inside (.mk "reference" [.key "name"]) = some (.string item.name) :=
    place_of_round ["name"] (by simp [itemRound]) rfl
  have path : placeValue inside (.mk "reference" [.key "path"]) = some (.string item.specifier) :=
    place_of_round ["path"] (by simp [itemRound]) rfl
  exact .cons (prints_text _) <| .cons (prints_place name) <| .cons (prints_text _) <|
    .cons (prints_place name) <| .cons (prints_text _) <| .cons (prints_place path) <|
    .cons (prints_text _) .nil

end Template.Decoders

namespace Template

theorem render_of_prints {template : List Node} {context : List (String × Json)}
    {texts : List (Evaluated String)}
    (prints : List.Forall₂ (Prints { context }) template texts) :
    render template context = inOrder texts := by
  unfold render
  rw [renderNodes_of_prints prints]
  cases inOrder texts <;> rfl

theorem fill_ok {template : List Node} {context : Option (List (String × Json))} {text : String}
    (filled : TemplateSet.fill template context = .ok text) :
    ∃ members, context = some members ∧ render template members = .ok text := by
  cases context with
  | none => cases filled
  | some members =>
    refine ⟨members, rfl, ?_⟩
    unfold TemplateSet.fill at filled
    cases rendered : render template members with
    | error fault =>
      simp only [rendered] at filled
      cases filled
    | ok other =>
      simp only [rendered] at filled
      cases filled
      rfl

end Template

open Template

open Template.Decoders in
theorem decoderSet_text {input : TemplateInput} {text : String}
    (rendered : decoderSet.renderer.text input = .ok text) :
    DecoderTexts.inputText input = .ok text := by
  cases input with
  | object input =>
    obtain ⟨context, given, rendered⟩ := fill_ok rendered
    obtain ⟨entries, shows⟩ := showsObject_of_members? given
    exact (render_of_prints (prints_object shows)).symm.trans rendered
  | enumeration input =>
    obtain ⟨context, given, rendered⟩ := fill_ok rendered
    have prints := render_of_prints (prints_enumeration (showsEnumeration_of_members? given))
    exact (inOrder_ok _).symm.trans (prints.symm.trans rendered)
  | union input =>
    obtain ⟨context, given, rendered⟩ := fill_ok rendered
    obtain ⟨items, shows⟩ := showsUnion_of_members? given
    exact (inOrder_ok _).symm.trans ((render_of_prints (prints_union shows)).symm.trans rendered)
  | plain => 
    cases rendered
    rfl

open Template.Decoders in
/-- A file can always be rendered. -/
theorem decoderSet_file (input : FileInput) :
    decoderSet.renderFile input = .ok (String.join (DecoderTexts.fileTexts input)) := by
  have prints := (render_of_prints (prints_file input)).trans (inOrder_ok _)
  show (render decoderSet.typesFile input.members).mapError Failure.template = _
  rw [show render decoderSet.typesFile input.members = _ from prints]
  rfl

end Typewright
