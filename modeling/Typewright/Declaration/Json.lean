import Typewright.Declaration

/-!
Template inputs as JSON, which is what templates see. An example with a key that cannot name a
member has no JSON, and so has no input that contains it.
-/
namespace Typewright

def Literal.toJson : Literal → Json
  | bool value => .bool value
  | int value => .int value
  | float value => Json.ofBinary64 value
  | string text => .string text

def exampleJson? : Option Yaml.Value → Option Json
  | none => some .null
  | some value => value.toJson?

def Annotation.members? (note : Annotation) : Option (List (String × Json)) := do
  return [("description", Json.ofOption .string note.description),
    ("summary", Json.ofOption .string note.summary),
    ("example", ← exampleJson? note.example?)]

def Property.toJson? (property : Property) : Option Json := do
  return .object ([("type", .string property.type),
    ("required", .bool property.required),
    ("referenced", .bool property.referenced),
    ("primitiveType", .string property.primitiveType),
    ("composerType", Json.ofOption .string property.itemType)] ++ (← property.note.members?))

def ObjectInput.members? (arrange : List (String × Json) → Json) (input : ObjectInput) :
    Option (List (String × Json)) := do
  let properties ← input.properties.mapM fun (name, property) =>
    property.toJson?.map fun json => (name, json)
  return [("typeName", .string input.name), ("type", .string input.type),
    ("properties", arrange properties)] ++ (← input.note.members?)

def EnumInput.members? (input : EnumInput) : Option (List (String × Json)) := do
  return [("typeName", .string input.name), ("type", .string input.type),
    ("enumType", .string input.valueType), ("values", .array (input.values.map Literal.toJson))] ++
    (← input.note.members?)

def PlainInput.members? (input : PlainInput) : Option (List (String × Json)) := do
  return [("typeName", .string input.name), ("type", .string input.type),
    ("composerType", Json.ofOption .string input.itemType)] ++ (← input.note.members?)

namespace TemplateInput

mutual

def members? (arrange : List (String × Json) → Json) :
    TemplateInput → Option (List (String × Json))
  | object input => return ("kind", .string "object") :: (← input.members? arrange)
  | enumeration input => return ("kind", .string "enum") :: (← input.members?)
  | union input => return ("kind", .string "oneOf") :: (← unionMembers? arrange input)
  | plain input => return ("kind", .string "variable") :: (← input.members?)

def unionMembers? (arrange : List (String × Json) → Json) :
    UnionInput TemplateInput → Option (List (String × Json))
  | ⟨name, type, compositions, note⟩ => do
    return [("typeName", .string name), ("type", .string type),
      ("compositions", .array (← compositions? arrange compositions))] ++ (← note.members?)

def compositions? (arrange : List (String × Json) → Json) :
    List (Composition TemplateInput) → Option (List Json)
  | [] => some []
  | composition :: rest => do
    return (← composition? arrange composition) :: (← compositions? arrange rest)

def composition? (arrange : List (String × Json) → Json) :
    Composition TemplateInput → Option Json
  | .referenced name =>
    some (.object [("source", .string "referenced"), ("referencedType", .string name)])
  | .inlined declaredType input content => do
    return .object [("source", .string "inline"),
      ("dataType", Json.ofOption .string declaredType),
      ("templateInput", .object (← members? arrange input)),
      ("content", .string content)]

end

end TemplateInput

end Typewright
