import Typewright.Failure
import Typewright.Json
import Typewright.Table
import Typewright.Template.Expression

/-!
Operations of templates on JSON values: truth, text, equality, arithmetic and membership.
-/
namespace Typewright.Template

abbrev Evaluated := Except TemplateFault

def isTrue : Json → Bool
  | .null => false
  | .bool value => value
  | .int n => n != 0
  | .float x => !x.isZero && !x.isNotANumber
  | .string text => !text.isEmpty
  | .array items => !items.isEmpty
  | .object members => !members.isEmpty

mutual

def shown : Json → String
  | .null => ""
  | .bool value => if value then "true" else "false"
  | .int n => toString n
  | .float x => Binary64.plain.write x
  | .string text => text
  | .array items => "[" ++ shownItems items ++ "]"
  | .object _ => "[object]"

def shownItems : List Json → String
  | [] => ""
  | [item] => shown item
  | item :: rest => shown item ++ ", " ++ shownItems rest

end

mutual

/-- Equality of values. A whole number and a float are different, and members have no order. -/
def same : Json → Json → Bool
  | .null, .null => true
  | .bool a, .bool b => a == b
  | .int a, .int b => a == b
  | .float a, .float b => a.sameValue b
  | .string a, .string b => a == b
  | .array a, .array b => sameItems a b
  | .object a, .object b => a.length == b.length && sameMembers a b
  | _, _ => false

def sameItems : List Json → List Json → Bool
  | [], [] => true
  | a :: as, b :: bs => same a b && sameItems as bs
  | _, _ => false

def sameMembers : List (String × Json) → List (String × Json) → Bool
  | [], _ => true
  | (name, value) :: rest, others =>
    others.any (fun other => name == other.1 && same value other.2) && sameMembers rest others

end

def float? : Json → Option Binary64
  | .int n => some (Binary64.ofInt n)
  | .float x => some x
  | _ => none

/-- Numbers are equal by their values as floats, and never equal to anything else. -/
def equal (a b : Json) : Bool :=
  match float? a, float? b with
  | some x, some y => x.sameValue y
  | none, none => same a b
  | _, _ => false

/-- Like `equal` for `!=`, except that a number is not unequal to another kind of value either. -/
def unequal (a b : Json) : Bool :=
  match float? a, float? b with
  | some x, some y => !x.sameValue y
  | none, none => !same a b
  | _, _ => false

def Comparison.order (operation : Comparison) (x y : Binary64) : Bool :=
  match operation with
  | .less => x.less y
  | .lessEqual => x.less y || x.sameValue y
  | .greater => y.less x
  | .greaterEqual => y.less x || x.sameValue y
  | .equal => x.sameValue y
  | .unequal => !x.sameValue y

/-- Whole numbers of 64 bits, both signed or both unsigned, have a whole result in their range;
there is no result when they are not of one kind. -/
def wholeResult? (a b result : Int) : Option (Evaluated Json) :=
  if fitsSigned 64 a && fitsSigned 64 b then
    some (if fitsSigned 64 result then .ok (.int result) else .error .overflow)
  else if fitsUnsigned 64 a && fitsUnsigned 64 b then
    some (if fitsUnsigned 64 result then .ok (.int result) else .error .overflow)
  else none

def floatResult (x : Binary64) : Option Json := if x.isFinite then some (.float x) else none

/-- A quotient is whole when its value is, clamped to 64 signed bits. -/
def quotient (x y : Binary64) : Option Json :=
  let q := x.divide y
  match q.toInt? with
  | some n => some (.int (max (-(twoTo 63 : Int)) (min n ((twoTo 63 : Int) - 1))))
  | none => floatResult q

def wholeOperation (operation : Arithmetic) (a b : Int) : Option (Evaluated Json) :=
  match operation with
  | .add => wholeResult? a b (a + b)
  | .subtract => wholeResult? a b (a - b)
  | .multiply => wholeResult? a b (a * b)
  | .remainder =>
    if b = 0 then (wholeResult? a b 0).map fun _ => .error .divisionByZero
    else wholeResult? a b (a.tmod b)
  | .divide => none

def floatOperation (operation : Arithmetic) (x y : Binary64) : Option Json :=
  match operation with
  | .add => floatResult (x.add y)
  | .subtract => floatResult (x.subtract y)
  | .multiply => floatResult (x.multiply y)
  | .remainder => floatResult (x.remainder y)
  | .divide => quotient x y

def Arithmetic.apply (operation : Arithmetic) (a b : Json) : Evaluated (Option Json) :=
  let whole? := match a, b with
    | .int m, .int n => wholeOperation operation m n
    | _, _ => none
  match whole? with
  | some result => result.map some
  | none =>
    match float? a, float? b with
    | some x, some y => .ok (floatOperation operation x y)
    | _, _ => .error .wrongKind

def isIn (member container : Json) : Evaluated Bool :=
  match container, member with
  | .array items, member => .ok (items.any (same member))
  | .string text, .string part => .ok (Text.contains text part)
  | .object members, .string name => .ok (members.any fun entry => entry.1 == name)
  | _, _ => .error .wrongKind

def child? (key : String) : Json → Option Json
  | .object members => Pairs.find? key members
  | .array items =>
    let digits := key.toList
    if digits.isEmpty || !digits.all Char.isDigit || (1 < digits.length && digits.head? == some '0')
    then none
    else items[Binary64.digitsValue digits]?
  | _ => none

end Typewright.Template
