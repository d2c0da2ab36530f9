import Typewright.Yaml.Value
import Typewright.Yaml.Node

/-!
What scalars stand for. A plain scalar is null, a truth value, a number or else its own text;
the standard tags ask for one kind.
-/
namespace Typewright.Yaml.Scalar

def isNull (text : String) : Bool := ["null", "Null", "NULL", "~"].contains text

def bool? (text : String) : Option Bool :=
  if ["true", "True", "TRUE"].contains text then some true
  else if ["false", "False", "FALSE"].contains text then some false
  else none

def digit? (base : Nat) (c : Char) : Option Nat :=
  (hexValue? c).bind fun n => if n < base then some n else none

def natural? (base : Nat) (digits : List Char) : Option Nat :=
  if digits.isEmpty then none
  else (digits.mapM (digit? base)).map fun values => values.foldl (fun n d => base * n + d) 0

def startsSigned : List Char → Bool
  | c :: _ => c == '+' || c == '-'
  | [] => false

/-- Digits with a leading zero are no number: they stand for their text. -/
def isPaddedDigits (text : List Char) : Bool :=
  let body := if startsSigned text then text.drop 1 else text
  1 < body.length && body.head? == some '0' && body.all Char.isDigit

def based? : List Char → Option (Nat × List Char)
  | '0' :: 'x' :: rest => some (16, rest)
  | '0' :: 'o' :: rest => some (8, rest)
  | '0' :: 'b' :: rest => some (2, rest)
  | _ => none

def int? (text : List Char) : Option Int :=
  let (negative, body) := Binary64.splitSign text
  let magnitude? :=
    match based? body with
    | some (base, digits) => natural? base digits
    | none => if isPaddedDigits text then none else natural? 10 body
  magnitude?.map fun n => if negative then -(n : Int) else n

def float? (text : List Char) : Option Binary64 :=
  let (negative, body) := Binary64.splitSign text
  let word := String.ofList body
  if [".inf", ".Inf", ".INF"].contains word then some (Binary64.infinity negative)
  else if [".nan", ".NaN", ".NAN"].contains word ∧ !startsSigned text then
    some Binary64.notANumber
  else (Binary64.read? text).filter Binary64.isFinite

/-- Whole numbers are those of 64 bits, signed or not. A wider one of 128 bits is refused, and one
beyond has no value here. -/
def wholeNumber? (text : List Char) : Except Fault (Option Value) :=
  match int? text with
  | none => .ok none
  | some n =>
    if fitsSigned 64 n || fitsUnsigned 64 n then .ok (some (.number (.int n)))
    else if fitsSigned 128 n || fitsUnsigned 128 n then .error .scalar
    else .ok none

def plainValue (text : String) : Except Fault Value := do
  if text.isEmpty || isNull text then return .null
  if let some value := bool? text then return .bool value
  if let some value := ← wholeNumber? text.toList then return value
  if isPaddedDigits text.toList then return .string text
  match float? text.toList with
  | some x => return .number (.float x)
  | none => return .string text

def ownTag? (tag : String) : Option String :=
  match tag.toList with
  | ['!'] => some "!!"
  | ['!', '!'] => some "!!"
  | '!' :: '!' :: rest => some (String.ofList ('!' :: rest))
  | '!' :: rest => some (String.ofList ('!' :: rest))
  | _ => none

def boolTag : String := "tag:yaml.org,2002:bool"
def intTag : String := "tag:yaml.org,2002:int"
def floatTag : String := "tag:yaml.org,2002:float"
def nullTag : String := "tag:yaml.org,2002:null"

def refuseNone : Option Value → Except Fault Value
  | some value => .ok value
  | none => .error .scalar

def typedValue (tag : Option String) (text : String) (style : Style) : Except Fault Value :=
  match tag with
  | some tag =>
    if tag = boolTag then refuseNone ((bool? text).map .bool)
    else if tag = intTag then do refuseNone (← wholeNumber? text.toList)
    else if tag = floatTag then refuseNone ((float? text.toList).map fun x => .number (.float x))
    else if tag = nullTag then if isNull text then .ok .null else .error .scalar
    else .ok (.string text)
  | none => if style = .plain then plainValue text else .ok (.string text)

def value (tag : Option String) (text : String) (style : Style) : Except Fault Value :=
  match tag.bind ownTag? with
  | some own => (typedValue none text style).map (.tagged own)
  | none => typedValue tag text style

end Typewright.Yaml.Scalar
