import Typewright.Template.Filter
import Typewright.Template.Scope

/-!
What expressions mean in a scope: as a value, as a condition and as a number. A condition takes
names that stand for nothing as false, where a value takes them as an error.
-/
namespace Typewright.Template

structure Meaning where
  value : Evaluated Json
  condition : Evaluated Bool
  number : Evaluated (Option Json)
  /-- Whether the condition is false and stays so under negation: a number beside a value of
  another kind is neither equal nor unequal to it. -/
  isMixed : Bool := false

namespace Meaning

def wrong (fault : TemplateFault) : Meaning := ⟨.error fault, .error fault, .error fault, false⟩

def asNumber (value : Json) : Evaluated (Option Json) :=
  match value with
  | .int _ => .ok (some value)
  | .float _ => .ok (some value)
  | _ => .error .wrongKind

def numberCondition : Option Json → Bool
  | some value => isTrue value
  | none => false

def ofNumber (number : Evaluated (Option Json)) : Meaning :=
  ⟨number.map (·.getD (.string "NaN")), number.map numberCondition, number, false⟩

def ofCondition (condition : Evaluated Bool) (isMixed : Bool) : Meaning :=
  ⟨condition.map .bool, condition, .error .wrongKind, isMixed⟩

def ofCall (value : Evaluated Json) : Meaning :=
  let condition := do
    match ← value with
    | .bool value => .ok value
    | _ => .error .wrongKind
  ⟨value, condition, value >>= asNumber, false⟩

def isMixedPair (a b : Json) : Bool := (float? a).isSome != (float? b).isSome

def compare (operation : Comparison) (left right : Meaning) : Meaning :=
  match operation with
  | .equal | .unequal =>
    let pair := do return (← left.value, ← right.value)
    match pair with
    | .error fault => wrong fault
    | .ok (a, b) =>
      ofCondition (.ok (if operation == .equal then equal a b else unequal a b)) (isMixedPair a b)
  | _ =>
    let condition := do
      match ← left.number, ← right.number with
      | some a, some b =>
        match float? a, float? b with
        | some x, some y => .ok (operation.order x y)
        | _, _ => .error .wrongKind
      | _, _ => .error .wrongKind
    ofCondition condition false

def connect (operation : Connective) (left right : Meaning) : Meaning :=
  let condition := do
    match operation, ← left.condition with
    | .or, true => .ok true
    | .and, false => .ok false
    | _, _ => right.condition
  ofCondition condition false

def compute (operation : Arithmetic) (left right : Meaning) : Meaning :=
  ofNumber do
    match ← left.number, ← right.number with
    | some a, some b => operation.apply a b
    | _, _ => return none

def negatedCondition (negated : Bool) (meaning : Meaning) : Evaluated Bool :=
  if meaning.isMixed then .ok false else meaning.condition.map (· != negated)

end Meaning

def text? : Option Json → Evaluated String
  | some (.string text) => .ok text
  | _ => .error .wrongKind

def oddness (value : Option Json) : Evaluated Bool :=
  match value.bind float? with
  | some x => .ok !((x.remainder (Binary64.ofInt 2)).isZero)
  | none => .error .wrongKind

def isDivisible (value arg : Option Json) : Evaluated Bool :=
  match value.bind float?, arg.bind float? with
  | some x, some y => .ok (x.remainder y).isZero
  | _, _ => .error .wrongKind

def applyTest (name : String) (args : List Json) (value : Option Json) : Evaluated Bool :=
  let bare (result : Evaluated Bool) : Evaluated Bool :=
    if args.isEmpty then result else .error .wrongKind
  match name with
  | "defined" => bare (.ok value.isSome)
  | "undefined" => bare (.ok value.isNone)
  | "odd" => bare (oddness value)
  | "even" => bare ((oddness value).map not)
  | "string" => bare do
    match value with
    | some (.string _) => .ok true
    | some _ => .ok false
    | none => .error .wrongKind
  | "number" => bare do
    match value with
    | some value => .ok (float? value).isSome
    | none => .error .wrongKind
  | "divisibleby" => isDivisible value args.head?
  | "iterable" => bare do
    match value with
    | some (.array _) => .ok true
    | some (.object _) => .ok true
    | some _ => .ok false
    | none => .error .wrongKind
  | "object" => bare do
    match value with
    | some (.object _) => .ok true
    | some _ => .ok false
    | none => .error .wrongKind
  | "starting_with" => do
    return (← text? args.head?).toList.isPrefixOf (← text? value).toList
  | "ending_with" => do
    return (← text? args.head?).toList.isSuffixOf (← text? value).toList
  | "containing" => do
    match value, args.head? with
    | some (.string text), some (.string part) => return Text.contains text part
    | some (.array items), some member => return items.any (same member)
    | some (.object members), some (.string name) => return members.any (·.1 == name)
    | _, _ => .error .wrongKind
  | name => .error (.unknownTest name)

def range (args : Filter.Arguments) : Evaluated Json := do
  let bound (name : String) (default : Evaluated Nat) : Evaluated Nat :=
    match Pairs.find? name args with
    | some value => Filter.position value
    | none => default
  let start ← bound "start" (.ok 0)
  let stop ← bound "end" (.error (.missingArgument "end"))
  let apart ← bound "step_by" (.ok 1)
  if stop < start ∨ apart = 0 then throw .wrongKind
  let count := (stop - start + apart - 1) / apart
  return .array ((List.range count).map fun i => .int (start + i * apart : Nat))

def applyFunction (name : String) (args : Filter.Arguments) : Evaluated Json :=
  match name with
  | "range" => range args
  | name => .error (.unknownFunction name)

def joined (value : Json) : Evaluated String :=
  match value with
  | .string text => .ok text
  | .int n => .ok (toString n)
  | .float x => .ok (Json.floatLayout.write x)
  | _ => .error .wrongKind

def keyText : Json → Option String
  | .string text => some text
  | .int n => some (toString n)
  | .float x => some (Json.floatLayout.write x)
  | _ => none

def isLookup : Operand → Bool
  | .lookup _ => true
  | _ => false

def isLogic : Operand → Bool
  | .comparison .. => true
  | .connective .. => true
  | _ => false

def isConcat : Operand → Bool
  | .concat _ => true
  | _ => false

/-- Puts operand, filters and negation together. `filtered` applies the filters, and `fallback` is
what a first filter says about a missing or null value. The value of a negated condition is
negated twice. -/
def complete (operand : Operand) (meaning : Meaning) (hasFilters negated : Bool)
    (fallback : Option (Evaluated Json)) (filtered : Json → Evaluated Json) : Meaning :=
  let condition := meaning.negatedCondition negated
  let finish (value : Json) : Evaluated Json := do
    let result ← filtered value
    return if negated then .bool (!isTrue result) else result
  let value : Evaluated Json :=
    if isLookup operand then
      match meaning.value, fallback with
      | .ok .null, some value => value >>= finish
      | .ok value, _ => finish value
      | .error _, some value => value >>= finish
      | .error fault, none => if negated then .ok (.bool true) else .error fault
    else if isLogic operand then condition >>= fun holds => finish (.bool holds)
    else meaning.value >>= finish
  { value
    condition :=
      if isLookup operand then
        match value with
        | .ok value => .ok (isTrue value)
        | .error _ => .ok false
      else if isConcat operand then do
        match ← value with
        | .string text => .ok !text.isEmpty
        | _ => .error .wrongKind
      else condition
    number := if hasFilters then value >>= Meaning.asNumber else meaning.number
    isMixed := false }

mutual

def placeValue (scope : Scope) : Place → Option Json
  | .mk name steps => (stepKeys scope steps).bind (scope.find? name)

def stepKey (scope : Scope) : Step → Option String
  | .key key => some key
  | .computed place => (placeValue scope place).bind keyText

def stepKeys (scope : Scope) : List Step → Option (List String)
  | [] => some []
  | step :: rest => do return (← stepKey scope step) :: (← stepKeys scope rest)

end

mutual

def meaning (scope : Scope) : Expr → Meaning
  | .mk operand filters negated =>
    complete operand (operandMeaning scope operand) (!filters.isEmpty) negated
      (fallback? scope filters) (applyFilters scope filters)

def operandMeaning (scope : Scope) : Operand → Meaning
  | .bool value => ⟨.ok (.bool value), .ok value, .error .wrongKind, false⟩
  | .int n => .ofNumber (.ok (some (.int n)))
  | .float x => .ofNumber (.ok (some (.float x)))
  | .text text => ⟨.ok (.string text), .ok !text.isEmpty, .error .wrongKind, false⟩
  | .array items =>
    ⟨(itemValues scope items).map .array, .error .wrongKind, .error .wrongKind, false⟩
  | .lookup place =>
    match placeValue scope place with
    | some value => ⟨.ok value, .ok (isTrue value), Meaning.asNumber value, false⟩
    | none => .wrong (.unknownName place.name)
  | .call call => .ofCall (callValue scope call)
  | .arithmetic operation left right =>
    .compute operation (meaning scope left) (meaning scope right)
  | .comparison operation left right =>
    .compare operation (meaning scope left) (meaning scope right)
  | .connective operation left right =>
    .connect operation (meaning scope left) (meaning scope right)
  | .contains member container negated =>
    .ofCondition (do
      let present ← isIn (← (meaning scope member).value) (← (meaning scope container).value)
      return present != negated) false
  | .test place test args negated =>
    .ofCondition (do
      let args ← itemValues scope args
      return (← applyTest test args (placeValue scope place)) != negated) false
  | .concat parts =>
    ⟨(joinedParts scope parts).map .string, .error .wrongKind, .error .wrongKind, false⟩

def itemValues (scope : Scope) : List Expr → Evaluated (List Json)
  | [] => .ok []
  | expr :: rest => do
    let value ← (meaning scope expr).value
    return value :: (← itemValues scope rest)

def argumentValues (scope : Scope) : List (String × Expr) → Evaluated Filter.Arguments
  | [] => .ok []
  | (name, expr) :: rest => do
    let value ← (meaning scope expr).value
    return (name, value) :: (← argumentValues scope rest)

def callValue (scope : Scope) : Call → Evaluated Json
  | .mk name args => do applyFunction name (← argumentValues scope args)

/-- Applies filters in order. `safe` changes nothing, and `default` only serves missing and null
values. -/
def applyFilters (scope : Scope) : List Call → Json → Evaluated Json
  | [], value => .ok value
  | .mk name args :: rest, value =>
    if name = "safe" ∨ name = "default" then applyFilters scope rest value
    else do
      let result ← Filter.apply name (← argumentValues scope args) value
      applyFilters scope rest result

def fallback? (scope : Scope) : List Call → Option (Evaluated Json)
  | .mk name args :: _ =>
    if name = "default" then
      some do
        match Pairs.find? "value" (← argumentValues scope args) with
        | some value => .ok value
        | none => .error (.missingArgument "value")
    else none
  | [] => none

def joinedParts (scope : Scope) : List Operand → Evaluated String
  | [] => .ok ""
  | part :: rest => do
    let text ←
      match part with
      | .float x => pure (Binary64.plain.write x)
      | part => do joined (← (operandMeaning scope part).value)
    return text ++ (← joinedParts scope rest)

end

end Typewright.Template
