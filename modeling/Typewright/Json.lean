import Typewright.Binary64.Text

/-!
JSON values and their compact text. Whole numbers and floating-point numbers stay apart, and the
members of an object keep their order.
-/
namespace Typewright

inductive Json where
  | null
  | bool (value : Bool)
  | int (value : Int)
  | float (value : Binary64)
  | string (text : String)
  | array (items : List Json)
  | object (members : List (String × Json))
deriving Inhabited

namespace Json

def floatLayout : Binary64.Layout := ⟨some (-4, 16), true, true, "null", "null"⟩

/-- JSON has no text for numbers that are not finite; they become null. -/
def ofBinary64 (x : Binary64) : Json := if x.isFinite then float x else null

def ofOption (encode : α → Json) : Option α → Json
  | none => null
  | some a => encode a

def strings (texts : List String) : Json := array (texts.map string)

def hexDigit (n : Nat) : Char := (Nat.digitChar (n % 16))

def escaped (c : Char) : List Char :=
  if c = '"' then ['\\', '"']
  else if c = '\\' then ['\\', '\\']
  else if c = '\n' then ['\\', 'n']
  else if c = '\r' then ['\\', 'r']
  else if c = '\t' then ['\\', 't']
  else if c.toNat = 8 then ['\\', 'b']
  else if c.toNat = 12 then ['\\', 'f']
  else if c.toNat < 32 then ['\\', 'u', '0', '0', hexDigit (c.toNat / 16), hexDigit c.toNat]
  else [c]

def quoted (text : String) : String :=
  "\"" ++ String.ofList (text.toList.flatMap escaped) ++ "\""

mutual

def write : Json → String
  | null => "null"
  | bool true => "true"
  | bool false => "false"
  | int n => toString n
  | float x => floatLayout.write x
  | string text => quoted text
  | array items => "[" ++ writeItems items ++ "]"
  | object members => "\x7b" ++ writeMembers members ++ "\x7d"

def writeItems : List Json → String
  | [] => ""
  | [item] => write item
  | item :: rest => write item ++ "," ++ writeItems rest

def writeMembers : List (String × Json) → String
  | [] => ""
  | [(name, value)] => quoted name ++ ":" ++ write value
  | (name, value) :: rest => quoted name ++ ":" ++ write value ++ "," ++ writeMembers rest

end

def member? (name : String) : Json → Option Json
  | object members => (members.find? fun entry => entry.1 == name).map Prod.snd
  | _ => none

end Json

end Typewright
