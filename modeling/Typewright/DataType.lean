import Typewright.Binary64.Text
import Typewright.Text.Quoted

/-!
The kinds of values that a schema can declare, and the literals of enumerations.
-/
namespace Typewright

inductive DataType where
  | string
  | number
  | integer
  | boolean
  | array
  | object
  | unknown
deriving DecidableEq, Repr

namespace DataType

def name : DataType → String
  | string => "string"
  | number => "number"
  | integer => "integer"
  | boolean => "boolean"
  | array => "array"
  | object => "object"
  | unknown => "unknown"

def all : List DataType := [string, number, integer, boolean, array, object, unknown]

def ofName? (name : String) : Option DataType := all.find? fun type => type.name == name

def isEnumerable : DataType → Bool
  | string => true
  | number => true
  | integer => true
  | _ => false

end DataType

/-- A value of an enumeration. Whole numbers beyond 64 signed bits are floats. -/
inductive Literal where
  | bool (value : Bool)
  | int (value : Int)
  | float (value : Binary64)
  | string (text : String)
deriving DecidableEq, Repr

namespace Literal

def fits (type : DataType) : Literal → Bool
  | string _ => type == .string
  | int _ => type == .integer || type == .number
  | float _ => type == .number
  | bool _ => false

def listing : Literal → String
  | bool value => "Bool(" ++ (if value then "true" else "false") ++ ")"
  | int value => "Integer(" ++ toString value ++ ")"
  | float value => "Number(" ++ Binary64.listed.write value ++ ")"
  | string text => "String(" ++ Text.quoted text ++ ")"

end Literal

end Typewright
