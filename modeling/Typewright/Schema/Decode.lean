import Typewright.Schema.Fields

/-!
Schemas decoded from values. The kind of a node is the first that fits: object, enumeration,
union, array, reference, primitive. A node that does not decode is reported with the way that
leads to it.
-/
namespace Typewright.Schema

abbrev Decoded := Except Misfit

def refuse (fault : NodeFault) : Decoded α := .error ⟨[], fault⟩

def atStep (step : SchemaStep) (result : Decoded α) : Decoded α :=
  result.mapError (Misfit.under step)

def decodeProperties (child : Yaml.Value → Decoded Schema) :
    List (String × Yaml.Value) → Decoded (List (String × Schema))
  | [] => .ok []
  | (name, value) :: rest => do
    let schema ← atStep (.property name) (child value)
    return (name, schema) :: (← decodeProperties child rest)

def decodeVariants (child : Yaml.Value → Decoded Schema) (position : Nat) :
    List Yaml.Value → Decoded (List Schema)
  | [] => .ok []
  | value :: rest => do
    let schema ← atStep (.variant position) (child value)
    return schema :: (← decodeVariants child (position + 1) rest)

def declared? (fields : Fields) : Decoded (Option DataType) :=
  match fields.type with
  | none => .ok none
  | some name =>
    match DataType.ofName? name with
    | some type => .ok (some type)
    | none => refuse (.unknownType name)

def decodeEnumeration (type : Option DataType) (values : List Literal) (note : Annotation) :
    Decoded Schema :=
  match type.filter DataType.isEnumerable with
  | none => refuse .enumType
  | some type =>
    if values.isEmpty then refuse .emptyEnum
    else
      match values.find? fun value => !value.fits type with
      | some value => refuse (.enumValue value type)
      | none => .ok (.enumeration type values note)

/-- The kind of a node whose fields are read; `child` decodes the nodes inside it. -/
def classify (child : Yaml.Value → Decoded Schema) (fields : Fields) : Decoded Schema := do
  let type ← declared? fields
  if fields.reference.isSome ∧ (type.isSome ∨ fields.oneOf.isSome) then refuse .mixedReference
  else if type = some .object then
    let properties ← decodeProperties child (fields.properties.getD [])
    return .object properties (fields.required.getD []) fields.note
  else
    match fields.enum, fields.oneOf, type, fields.reference with
    | some values, _, _, _ => decodeEnumeration type values fields.note
    | none, some [], _, _ => refuse .noVariants
    | none, some variants, _, _ => return .union (← decodeVariants child 1 variants) fields.note
    | none, none, some .array, _ =>
      match fields.items with
      | none => refuse .noItems
      | some items => return .array (← atStep .items (child items)) fields.note
    | none, none, _, some target => return .reference target fields.note
    | none, none, some type, none => return .primitive type fields.format fields.note
    | none, none, none, none => refuse .noKind

def decodeNode (child : Yaml.Value → Decoded Schema) (value : Yaml.Value) : Decoded Schema :=
  match Fields.read value with
  | .ok fields => classify child fields
  | .error fault => refuse (.fields fault)

def decodeWithin : Nat → Yaml.Value → Decoded Schema
  | 0, _ => refuse .noKind
  | depth + 1, value => decodeNode (decodeWithin depth) value

def decode (value : Yaml.Value) : Decoded Schema := decodeWithin value.height value

def decodeNamed (name : String) (value : Yaml.Value) : Except Failure Schema :=
  (decode value).mapError fun misfit => .invalidSpec (.node name misfit)

end Typewright.Schema
