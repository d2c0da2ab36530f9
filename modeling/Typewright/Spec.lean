import Typewright.Schema.Decode

/-!
A document of types: what it says about itself, its types and its groups of types. The bodies of
types stay values until they are asked for.
-/
namespace Typewright

structure SpecInfo where
  version : String
  title : String

abbrev TypeMap := Table Yaml.Value

inductive Group where
  | types (types : TypeMap)
  | reference (target : String)

structure Spec where
  info : SpecInfo
  types : Option TypeMap
  groups : Option (Table Group)

def invalid (fault : SpecFault) : Except Failure α := .error (.invalidSpec fault)

namespace TypeMap

def keyText (context : String) (key : Yaml.Value) : Except Failure String :=
  match key.text? with
  | some name => .ok name
  | none => invalid (.keyNotText context key)

/-- Reads types by name. A name that occurs again, under a tag, replaces the earlier one. -/
def decode (context : String) (value : Yaml.Value) : Except Failure TypeMap :=
  match value.entries? with
  | none => invalid (.typesNotMapping context)
  | some entries => do
    let pairs ← entries.mapM fun (key, value) => do return (← keyText context key, value)
    return Table.ofList pairs

end TypeMap

namespace Group

/-- A group refers elsewhere when a reference is its only entry. -/
def reference? (value : Yaml.Value) : Option String := do
  let entries ← value.entries?
  if entries.length = 1 then (← Yaml.Value.lookup? Yaml.Value.referenceKey entries).text? else none

def decode (name : String) (value : Yaml.Value) : Except Failure Group :=
  match reference? value with
  | some target => .ok (.reference target)
  | none => (TypeMap.decode name value).map .types

def values : Group → List Yaml.Value
  | .types listed => listed.values
  | .reference _ => []

end Group

namespace Spec

def values (spec : Spec) : List Yaml.Value :=
  (spec.types.elim [] Table.values) ++
    (spec.groups.elim [] Table.values).flatMap Group.values

def infoText (field : String) (entries : List (Yaml.Value × Yaml.Value)) :
    Except Failure String :=
  match Yaml.Value.lookup? field entries with
  | some (.string text) => .ok text
  | some (.number number) => .ok number.text
  | _ => invalid (.noInfoField field)

def decodeInfo (entries : List (Yaml.Value × Yaml.Value)) : Except Failure SpecInfo :=
  match (Yaml.Value.lookup? "info" entries).bind Yaml.Value.entries? with
  | none => invalid .noInfo
  | some info => return { version := ← infoText "version" info, title := ← infoText "title" info }

def part? (name : String) (entries : List (Yaml.Value × Yaml.Value)) : Option Yaml.Value :=
  match Yaml.Value.lookup? name entries with
  | some .null => none
  | value? => value?

def decodeTypes (entries : List (Yaml.Value × Yaml.Value)) : Except Failure (Option TypeMap) :=
  match part? "types" entries with
  | none => .ok none
  | some value => (TypeMap.decode "types" value).map some

def decodeGroups (entries : List (Yaml.Value × Yaml.Value)) :
    Except Failure (Option (Table Group)) :=
  match part? "groupedTypes" entries with
  | none => .ok none
  | some value =>
    match value.entries? with
    | none => invalid .groupsNotMapping
    | some groups => do
      let pairs ← groups.mapM fun (key, value) => do
        let name ← TypeMap.keyText "groupedTypes" key
        return (name, ← Group.decode name value)
      return some (Table.ofList pairs)

def decode (document : Yaml.Value) : Except Failure Spec :=
  match document.entries? with
  | none => invalid .notMapping
  | some entries => do
    let info ← decodeInfo entries
    let types ← decodeTypes entries
    let groups ← decodeGroups entries
    if types.isNone ∧ groups.isNone then invalid .nothingDeclared
    else return ⟨info, types, groups⟩

end Spec

end Typewright
