import Typewright.Template.Expression.Reader
import Typewright.Text.Character

/-!
Templates as trees. A tag can strike the blanks on either side of it; the trees hold texts with
these blanks struck.
-/
namespace Typewright.Template

inductive Node where
  | text (text : String)
  | output (expr : Expr)
  | assign (everywhere : Bool) (name : String) (expr : Expr)
  | cond (branches : List (Expr × List Node)) (otherwise : List Node)
  | loop (keyName : Option String) (valueName : String) (container : Expr) (body : List Node)
      (ifEmpty : List Node)
  | stopLoop
  | nextRound

structure Strikes where
  before : Bool
  after : Bool

/-- A piece of a sequence. Comments have no node; texts can be struck. -/
inductive Piece where
  | text (text : List Char)
  | fixed (node : Option Node) (strikes : Strikes)

namespace Piece

def strikesBefore : List Piece → Bool → Bool
  | fixed _ strikes :: _, _ => strikes.before
  | text _ :: _, _ => false
  | [], atEnd => atEnd

def trimStart (text : List Char) : List Char := text.dropWhile Text.isBlank

def trimEnd (text : List Char) : List Char := (text.reverse.dropWhile Text.isBlank).reverse

/-- The nodes of a sequence with the blanks struck from its texts. `after` says whether the tag
before the sequence strikes, `atEnd` whether the tag behind it does. -/
def settle (after atEnd : Bool) : List Piece → List Node
  | [] => []
  | fixed node strikes :: rest => node.toList ++ settle strikes.after atEnd rest
  | text chars :: rest =>
    let chars := if after then trimStart chars else chars
    let chars := if strikesBefore rest atEnd then trimEnd chars else chars
    if chars.isEmpty then settle false atEnd rest
    else .text (String.ofList chars) :: settle false atEnd rest

end Piece

namespace Reader

def opens : List Char → Bool
  | '{' :: c :: _ => c == '{' || c == '%' || c == '#'
  | _ => false

def plainText : List Char → List Char × List Char
  | [] => ([], [])
  | c :: rest =>
    if opens (c :: rest) then ([], c :: rest)
    else
      let (text, tail) := plainText rest
      (c :: text, tail)

def tagStart (mark : String) : Reader Bool := do
  exactly mark
  minus

def tagEnd (mark : String) : Reader Bool := do
  blanks
  (do
    exactly ("-" ++ mark)
    return true) <|> (do
    exactly mark
    return false)

def wordTag (word : String) : Reader Strikes := do
  let before ← tagStart "\x7b%"
  sign word
  return ⟨before, ← tagEnd "%\x7d"⟩

def outputTag (fuel : Nat) : Reader Piece := do
  let before ← tagStart "\x7b\x7b"
  let expr ← valueExpr fuel
  return .fixed (some (.output expr)) ⟨before, ← tagEnd "\x7d\x7d"⟩

def commentEnd : List Char → Option (Bool × List Char)
  | '-' :: '#' :: '}' :: rest => some (true, rest)
  | '#' :: '}' :: rest => some (false, rest)
  | _ :: rest => commentEnd rest
  | [] => none

def comment : Reader Piece := do
  let before ← tagStart "\x7b#"
  match commentEnd (← get) with
  | some (after, rest) =>
    set rest
    return .fixed none ⟨before, after⟩
  | none => failure

def assignment (fuel : Nat) : Reader Piece := do
  let body (word : String) (everywhere : Bool) : Reader Piece := do
    let before ← tagStart "\x7b%"
    sign word
    blanks
    let name ← name
    sign "="
    let expr ← valueExpr fuel
    return .fixed (some (.assign everywhere name expr)) ⟨before, ← tagEnd "%\x7d"⟩
  body "set" false <|> body "set_global" true

def bareTag : Reader Piece :=
  (do return .fixed (some .stopLoop) (← wordTag "break")) <|>
    (do return .fixed (some .nextRound) (← wordTag "continue"))

def verbatimText : Nat → List Char → Option (List Char × Strikes × List Char)
  | 0, _ => none
  | fuel + 1, rest =>
    match (wordTag "endraw").run rest with
    | some (strikes, tail) => some ([], strikes, tail)
    | none =>
      match rest with
      | [] => none
      | c :: more =>
        (verbatimText fuel more).map fun (text, strikes, tail) => (c :: text, strikes, tail)

def verbatim (trims : Bool) : Reader Piece := do
  let first ← wordTag "raw"
  let rest ← get
  match verbatimText (rest.length + 1) rest with
  | none => failure
  | some (text, last, tail) =>
    set tail
    let text := if trims && first.after then Piece.trimStart text else text
    let text := if trims && last.before then Piece.trimEnd text else text
    return .fixed (some (.text (String.ofList text))) ⟨first.before, last.after⟩

def textPiece : Reader Piece := do
  let (text, rest) := plainText (← get)
  if text.isEmpty then failure
  set rest
  return .text text

def loopHead (fuel : Nat) : Reader ((Option String × String × Expr) × Strikes) := do
  let before ← tagStart "\x7b%"
  sign "for"
  blanks
  let first ← name
  let second ← (do
    sign ","
    blanks
    return some (← name)) <|> pure none
  sign "in"
  let container ← filteredSum fuel <|> filteredArray fuel
  let after ← tagEnd "%\x7d"
  let names := match second with
    | some value => (some first, value)
    | none => (none, first)
  return ((names.1, names.2, container), ⟨before, after⟩)

def branchHead (fuel : Nat) (word : String) : Reader (Expr × Strikes) := do
  let before ← tagStart "\x7b%"
  sign word
  let condition ← expr fuel
  return (condition, ⟨before, ← tagEnd "%\x7d"⟩)

def settleWhen (trims after atEnd : Bool) (pieces : List Piece) : List Node :=
  if trims then Piece.settle after atEnd pieces
  else Piece.settle false false (pieces.map fun piece =>
    match piece with
    | .fixed node _ => .fixed node ⟨false, false⟩
    | text => text)

mutual

def pieces (trims : Bool) : Nat → Reader (List Piece)
  | 0 => failure
  | fuel + 1 => (do
      let first ← piece trims fuel
      return first :: (← pieces trims fuel)) <|> pure []

def piece (trims : Bool) : Nat → Reader Piece
  | 0 => failure
  | fuel + 1 =>
    textPiece <|> outputTag fuel <|> comment <|> assignment fuel <|> bareTag <|>
      verbatim trims <|> conditional trims fuel <|> loop trims fuel

def conditional (trims : Bool) : Nat → Reader Piece
  | 0 => failure
  | fuel + 1 => do
    let (condition, strikes) ← branchHead fuel "if"
    let body ← pieces trims fuel
    let (branches, otherwise, last) ← branches trims fuel condition strikes.after body
    return .fixed (some (.cond branches otherwise)) ⟨strikes.before, last.after⟩

/-- Reads what follows the body of a branch: further branches, the one without condition, and the
end. The body is settled when the tag behind it is known. -/
def branches (trims : Bool) :
    Nat → Expr → Bool → List Piece → Reader (List (Expr × List Node) × List Node × Strikes)
  | 0, _, _, _ => failure
  | fuel + 1, condition, after, body =>
    let settled (next : Strikes) := (condition, settleWhen trims after next.before body)
    (do
      let (next, strikes) ← branchHead fuel "elif"
      let nextBody ← pieces trims fuel
      let (rest, otherwise, last) ← branches trims fuel next strikes.after nextBody
      return (settled strikes :: rest, otherwise, last)) <|>
    (do
      let strikes ← wordTag "else"
      let otherwise ← pieces trims fuel
      let last ← wordTag "endif"
      return ([settled strikes], settleWhen trims strikes.after last.before otherwise, last)) <|>
    (do
      let last ← wordTag "endif"
      return ([settled last], [], last))

def loop (trims : Bool) : Nat → Reader Piece
  | 0 => failure
  | fuel + 1 => do
    let ((keyName, valueName, container), strikes) ← loopHead fuel
    let body ← pieces trims fuel
    let ifEmpty ← (do
      let _ ← wordTag "else"
      return settleWhen false false false (← pieces false fuel)) <|> pure []
    let last ← wordTag "endfor"
    let body := settleWhen trims strikes.after last.before body
    return .fixed (some (.loop keyName valueName container body ifEmpty))
      ⟨strikes.before, last.after⟩

end

end Reader

def read (text : String) : Option (List Node) :=
  let chars := text.toList
  match (Reader.pieces true (10 * chars.length + 60)).run chars with
  | some (pieces, []) => some (Piece.settle false false pieces)
  | _ => none

end Typewright.Template
