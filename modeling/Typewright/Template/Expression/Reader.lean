import Typewright.Binary64.Text
import Typewright.Template.Expression

/-!
Reading expressions. Alternatives are tried in order, and the first that fits is kept. Blanks may
stand between the parts of an expression but not inside names and numbers.
-/
namespace Typewright.Template

abbrev Reader := StateT (List Char) Option

namespace Reader

def isSpace (c : Char) : Bool := c == ' ' || c == '\t' || c == '\r' || c == '\n'

def blanks : Reader Unit := modify (List.dropWhile isSpace)

def exactly (text : String) : Reader Unit := do
  let pattern := text.toList
  let rest ← get
  if pattern.isPrefixOf rest then set (rest.drop pattern.length) else failure

def sign (text : String) : Reader Unit := do
  blanks
  exactly text

def takeWhile (p : Char → Bool) : Reader (List Char) := do
  let rest ← get
  set (rest.dropWhile p)
  return rest.takeWhile p

def isNameStart (c : Char) : Bool := c.isAlpha || c == '_'

def isNamePart (c : Char) : Bool := c.isAlphanum || c == '_'

def name : Reader String := do
  match ← get with
  | c :: _ => if isNameStart c then return String.ofList (← takeWhile isNamePart) else failure
  | [] => failure

def keyword (text : String) : Reader Unit := do
  sign text
  match ← get with
  | c :: rest => if isSpace c then set rest else failure
  | [] => failure

def succeeds (reader : Reader Unit) : Reader Bool :=
  (do reader; return true) <|> pure false

def many (reader : Reader α) : Nat → Reader (List α)
  | 0 => return []
  | fuel + 1 => (do
      let first ← reader
      return first :: (← many reader fuel)) <|> pure []

def repeated (reader : Reader α) : Reader (List α) := do many reader (← get).length

def minus : Reader Bool := succeeds (exactly "-")

def digits : Reader (List Char) := do
  match ← get with
  | '0' :: rest =>
    set rest
    return ['0']
  | c :: _ => if c.isDigit then takeWhile Char.isDigit else failure
  | [] => failure

def floatLiteral : Reader Binary64 := do
  let negative ← minus
  let whole ← digits
  exactly "."
  let decimals ← takeWhile Char.isDigit
  if decimals.isEmpty then failure
  return Binary64.ofDecimal negative (Binary64.digitsValue (whole ++ decimals))
    (-(decimals.length : Int))

/-- Whole numbers are those of 64 signed bits. -/
def intLiteral : Reader Int := do
  let negative ← minus
  let n : Int := Binary64.digitsValue (← digits)
  let n := if negative then -n else n
  if fitsSigned 64 n then return n else failure

def quotedBy (quote : Char) : Reader String := do
  exactly quote.toString
  let text ← takeWhile (· != quote)
  exactly quote.toString
  return String.ofList text

def stringLiteral : Reader String :=
  quotedBy '"' <|> quotedBy (Char.ofNat 0x27) <|> quotedBy (Char.ofNat 0x60)

def boolLiteral : Reader Bool :=
  (do exactly "true"; return true) <|> (do exactly "false"; return false) <|>
    (do exactly "True"; return true) <|> (do exactly "False"; return false)

def dotted : Reader (String × List String) := do
  let first ← name
  let keys ← repeated do
    exactly "."
    let part ← takeWhile isNamePart
    if part.isEmpty then failure
    return String.ofList part
  return (first, keys)

def dottedPlace : Reader Place := do
  let (name, keys) ← dotted
  return .mk name (keys.map .key)

def place : Nat → Reader Place
  | 0 => failure
  | fuel + 1 => do
    let (name, keys) ← dotted
    let dotKey : Reader Step := do
      exactly "."
      let part ← takeWhile isNamePart
      if part.isEmpty then failure
      return .key (String.ofList part)
    let inBrackets : Reader Step := do
      exactly "["
      let step ← (do return .key (toString (← intLiteral))) <|>
        (do return .key (← stringLiteral)) <|>
        (do return .computed (← place fuel))
      exactly "]"
      return step
    let more ← repeated (dotKey <|> inBrackets)
    return .mk name (keys.map .key ++ more)

def separated (item : Reader α) : Reader (List α) :=
  (do
    let first ← item
    let rest ← repeated do
      sign ","
      item
    let _ ← succeeds (sign ",")
    return first :: rest) <|> pure []

def fold (first : Expr) (rest : List (Arithmetic × Expr)) : Expr :=
  let isProduct (operation : Arithmetic) : Bool :=
    operation != .add && operation != .subtract
  let join (operation : Arithmetic) (left right : Expr) : Expr :=
    .ofOperand (.arithmetic operation left right)
  let (done, last) := rest.foldl (fun (done, last) (operation, expr) =>
    match isProduct operation, done with
    | true, _ => (done, join operation last expr)
    | false, none => (some (operation, last), expr)
    | false, some (pending, left) => (some (operation, join pending left last), expr))
    ((none : Option (Arithmetic × Expr)), first)
  -- `done` holds the sum so far with the operation that waits for the last product.
  match done with
  | none => last
  | some (operation, left) => join operation left last

def arithmeticSign : Reader Arithmetic :=
  (do sign "+"; return .add) <|> (do sign "-"; return .subtract) <|>
    (do sign "*"; return .multiply) <|> (do sign "/"; return .divide) <|>
    (do sign "%"; return .remainder)

def comparisonSign : Reader Comparison :=
  (do sign "<="; return .lessEqual) <|> (do sign ">="; return .greaterEqual) <|>
    (do sign ">"; return .greater) <|> (do sign "<"; return .less) <|>
    (do sign "=="; return .equal) <|> (do sign "!="; return .unequal)

/-- Conjunctions bind closer than disjunctions; both group from the left. -/
def foldConnectives (first : Expr) (rest : List (Connective × Expr)) : Expr :=
  let join (operation : Connective) (left right : Expr) : Expr :=
    .ofOperand (.connective operation left right)
  let (done, last) := rest.foldl (fun (done, last) (operation, expr) =>
    match operation, done with
    | .and, _ => (done, join .and last expr)
    | .or, none => (some last, expr)
    | .or, some left => (some (join .or left last), expr))
    ((none : Option Expr), first)
  match done with
  | none => last
  | some left => join .or left last

mutual

/-- A condition or value: parts joined by `and` and `or`. All readers of this group take a bound
on their nesting. -/
def expr : Nat → Reader Expr
  | 0 => failure
  | fuel + 1 => do
    let first ← logicPart fuel
    let rest ← repeated do
      let operation ← (do keyword "or"; return Connective.or) <|>
        (do keyword "and"; return Connective.and)
      return (operation, ← logicPart fuel)
    return foldConnectives first rest

def logicPart : Nat → Reader Expr
  | 0 => failure
  | fuel + 1 => do
    let negated ← succeeds (keyword "not")
    let negate : Expr → Expr
      | .mk operand filters own => .mk operand filters (own != negated)
    (do return negate (← membership fuel)) <|> (do return negate (← comparison fuel)) <|>
      (do
        sign "("
        let inner ← expr fuel
        sign ")"
        return negate inner)

def membership : Nat → Reader Expr
  | 0 => failure
  | fuel + 1 => do
    let member ← filteredText fuel <|> filteredSum fuel
    let negated ← succeeds (keyword "not")
    sign "in"
    let container ← filteredText fuel <|> filteredArray fuel <|>
      (do
        blanks
        return .ofOperand (.lookup (← place fuel)))
    return .ofOperand (.contains member container negated)

def comparison : Nat → Reader Expr
  | 0 => failure
  | fuel + 1 => do
    let left ← filteredText fuel <|> sumOfFiltered fuel
    (do
      let operation ← comparisonSign
      let right ← filteredText fuel <|> sumOfFiltered fuel
      return .ofOperand (.comparison operation left right)) <|> pure left

def sumOfFiltered : Nat → Reader Expr
  | 0 => failure
  | fuel + 1 => do
    let first ← filteredSum fuel
    let rest ← repeated do return (← arithmeticSign, ← filteredSum fuel)
    return fold first rest

def filteredSum : Nat → Reader Expr
  | 0 => failure
  | fuel + 1 => do
    let .mk operand filters negated ← sum fuel
    return .mk operand (filters ++ (← repeated (filter fuel))) negated

def sum : Nat → Reader Expr
  | 0 => failure
  | fuel + 1 => do
    let first ← group fuel <|> basic fuel
    let rest ← repeated do return (← arithmeticSign, ← group fuel <|> basic fuel)
    return fold first rest

def group : Nat → Reader Expr
  | 0 => failure
  | fuel + 1 => do
    sign "("
    let inner ← sum fuel
    sign ")"
    return inner

def basic : Nat → Reader Expr
  | 0 => failure
  | fuel + 1 => do
    blanks
    (do return .ofOperand (.bool (← boolLiteral))) <|>
      (do return .ofOperand (← test fuel)) <|>
      (do return .ofOperand (.call (← call fuel))) <|>
      (do return .ofOperand (.lookup (← place fuel))) <|>
      (do return .ofOperand (.float (← floatLiteral))) <|>
      (do return .ofOperand (.int (← intLiteral)))

def test : Nat → Reader Operand
  | 0 => failure
  | fuel + 1 => do
    let place ← dottedPlace
    sign "is"
    let body (negated : Bool) : Reader Operand := do
      blanks
      let name ← name
      let args ← (do
        sign "("
        let first ← filteredArray fuel <|> expr fuel
        let rest ← repeated do
          sign ","
          filteredArray fuel <|> expr fuel
        sign ")"
        return first :: rest) <|> pure []
      return .test place name args negated
    (do
      sign "not"
      body true) <|> body false

def call : Nat → Reader Call
  | 0 => failure
  | fuel + 1 => do
    let name ← name
    sign "("
    let args ← separated do
      blanks
      let name ← Reader.name
      sign "="
      return (name, ← filteredArray fuel <|> expr fuel)
    sign ")"
    return .mk name args

def filter : Nat → Reader Call
  | 0 => failure
  | fuel + 1 => do
    sign "|"
    blanks
    call fuel <|> (do return .mk (← name) [])

def filteredText : Nat → Reader Expr
  | 0 => failure
  | fuel + 1 => do
    blanks
    let operand ← (do
      let first ← textPart fuel
      let rest ← repeated do
        sign "~"
        blanks
        textPart fuel
      if rest.isEmpty then failure
      return .concat (first :: rest)) <|> (do return .text (← stringLiteral))
    return .mk operand (← repeated (filter fuel)) false

def textPart : Nat → Reader Operand
  | 0 => failure
  | fuel + 1 =>
    (do return .call (← call fuel)) <|> (do return .float (← floatLiteral)) <|>
      (do return .int (← intLiteral)) <|> (do return .text (← stringLiteral)) <|>
      (do return .lookup (← place fuel))

def filteredArray : Nat → Reader Expr
  | 0 => failure
  | fuel + 1 => do
    sign "["
    let items ← separated (expr fuel)
    if items.isEmpty then let _ ← succeeds (sign ",")
    sign "]"
    return .mk (.array items) (← repeated (filter fuel)) false

end

def valueExpr (fuel : Nat) : Reader Expr := expr fuel <|> filteredArray fuel

end Reader

end Typewright.Template
