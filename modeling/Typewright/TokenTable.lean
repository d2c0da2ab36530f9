import Typewright.Failure

/-!
Target tokens of primitive types. An entry is one token, or a token for each format with a default
that must be present, whatever format is asked for.
-/
namespace Typewright

inductive TokenEntry where
  | direct (token : String)
  | formats (tokens : Table String)

abbrev TokenTable := Table TokenEntry

namespace TokenTable

def defaultFormat : String := "default"

/-- The token of a primitive type. A format without a token of its own has the default one. -/
def primitive (table : TokenTable) (type : DataType) (format : Option String) :
    Except Failure String :=
  match table.find? type.name with
  | none => .error (.noToken type.name format)
  | some (.direct token) => .ok token
  | some (.formats tokens) =>
    match tokens.find? defaultFormat with
    | none => .error (.invalidSpec (.noDefaultFormat type))
    | some token => .ok ((format.bind tokens.find?).getD token)

def arrayPattern (table : TokenTable) : Except Failure String :=
  match table.find? DataType.array.name with
  | none => .error (.noToken DataType.array.name none)
  | some (.direct token) =>
    if Text.contains token itemMark then .ok token else .error (.invalidSpec .arrayToken)
  | some (.formats _) => .error (.invalidSpec .arrayToken)

def array (table : TokenTable) (item : String) : Except Failure String :=
  table.arrayPattern.map (Text.replaceAll itemMark item)

end TokenTable

end Typewright
