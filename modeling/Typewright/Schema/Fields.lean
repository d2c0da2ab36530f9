import Typewright.Failure
import Typewright.Schema

/-!
The fields of a schema node, read from a mapping before anything is said about which kind of node
it is. Fields are read in document order, the first fault wins, and unknown fields are passed
over.
-/
namespace Typewright.Schema

inductive Field where
  | type
  | format
  | properties
  | required
  | items
  | reference
  | oneOf
  | enum
  | description
  | summary
  | exampleField
deriving DecidableEq, Repr

def Field.name : Field → String
  | type => "type"
  | format => "format"
  | properties => "properties"
  | required => "required"
  | items => "items"
  | reference => "$ref"
  | oneOf => "oneOf"
  | enum => "enum"
  | description => "description"
  | summary => "summary"
  | exampleField => "example"

def Field.all : List Field :=
  [type, format, properties, required, items, reference, oneOf, enum, description, summary,
    exampleField]

def Field.ofName? (name : String) : Option Field := all.find? fun field => field.name == name

structure Fields where
  type : Option String := none
  format : Option String := none
  properties : Option (List (String × Yaml.Value)) := none
  required : Option (List String) := none
  items : Option Yaml.Value := none
  reference : Option String := none
  oneOf : Option (List Yaml.Value) := none
  enum : Option (List Literal) := none
  note : Annotation := {}

namespace Fields

/-- Null is no value; a tagged null is one. -/
def optional (read : Yaml.Value → Except FieldFault α) :
    Yaml.Value → Except FieldFault (Option α)
  | .null => .ok none
  | value => (read value).map some

def text (expected : Expected) (value : Yaml.Value) : Except FieldFault String :=
  match value.text? with
  | some text => .ok text
  | none => .error (.wrongType value expected)

def sequence (value : Yaml.Value) : Except FieldFault (List Yaml.Value) :=
  match value.untagged with
  | .sequence items => .ok items
  | .null => .ok []
  | _ => .error (.wrongType value .sequence)

def mapping (expected : Expected) (value : Yaml.Value) :
    Except FieldFault (List (Yaml.Value × Yaml.Value)) :=
  match value.untagged with
  | .mapping entries => .ok entries
  | .null => .ok []
  | _ => .error (.wrongType value expected)

/-- Properties by name; a name that occurs again, under a tag, replaces the earlier value. -/
def named (value : Yaml.Value) : Except FieldFault (List (String × Yaml.Value)) := do
  let entries ← mapping .mapping value
  let pairs ← entries.mapM fun (key, value) => do return (← text .text key, value)
  return Pairs.collect pairs

mutual

def carriesTag : Yaml.Value → Bool
  | .tagged .. => true
  | .sequence items => itemsCarryTag items
  | .mapping entries => entriesCarryTag entries
  | _ => false

def itemsCarryTag : List Yaml.Value → Bool
  | [] => false
  | item :: rest => carriesTag item || itemsCarryTag rest

def entriesCarryTag : List (Yaml.Value × Yaml.Value) → Bool
  | [] => false
  | (key, value) :: rest => carriesTag key || carriesTag value || entriesCarryTag rest

end

def literal (value : Yaml.Value) : Except FieldFault Literal :=
  if carriesTag value then .error .taggedLiteral
  else
    match value with
    | .bool value => .ok (.bool value)
    | .number (.int n) =>
      if fitsSigned 64 n then .ok (.int n) else .ok (.float (Binary64.ofInt n))
    | .number (.float x) => .ok (.float x)
    | .string text => .ok (.string text)
    | _ => .error .notLiteral

def texts (value : Yaml.Value) : Except FieldFault (List String) := do
  (← sequence value).mapM (text .text)

def literals (value : Yaml.Value) : Except FieldFault (List Literal) := do
  (← sequence value).mapM literal

def set (fields : Fields) (field : Field) (value : Yaml.Value) : Except FieldFault Fields :=
  match field with
  | .type => return { fields with type := ← optional (text .text) value }
  | .format => return { fields with format := ← optional (text .text) value }
  | .properties => return { fields with properties := ← optional named value }
  | .required => return { fields with required := ← optional texts value }
  | .items => return { fields with items := ← optional .ok value }
  | .reference => return { fields with reference := ← optional (text .text) value }
  | .oneOf => return { fields with oneOf := ← optional sequence value }
  | .enum => return { fields with enum := ← optional literals value }
  | .description =>
    return { fields with
      note := { fields.note with description := ← optional (text .text) value } }
  | .summary =>
    return { fields with note := { fields.note with summary := ← optional (text .text) value } }
  | .exampleField =>
    return { fields with note := { fields.note with example? := ← optional .ok value } }

def readEntries (fields : Fields) (seen : List Field) :
    List (Yaml.Value × Yaml.Value) → Except FieldFault Fields
  | [] => .ok fields
  | (key, value) :: rest => do
    match Field.ofName? (← text .fieldName key) with
    | none => readEntries fields seen rest
    | some field =>
      if field ∈ seen then throw (.duplicate field.name)
      readEntries (← fields.set field value) (field :: seen) rest

/-- The fields of a node. A node that is null has none. -/
def read (value : Yaml.Value) : Except FieldFault Fields := do
  readEntries {} [] (← mapping .node value)

end Fields

end Typewright.Schema
