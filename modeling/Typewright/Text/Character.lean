import Typewright.Text.CharacterTables

/-!
Character classes and case forms. ASCII is decided here, everything else by the tables.
-/
namespace Typewright.Text

def inRanges (ranges : List (Nat × Nat)) (c : Char) : Bool :=
  ranges.any fun (first, last) => first ≤ c.toNat && c.toNat ≤ last

def inSteps (ranges : List (Nat × Nat × Nat)) (c : Char) : Bool :=
  ranges.any fun (first, last, step) =>
    first ≤ c.toNat && c.toNat ≤ last && (c.toNat - first) % step == 0

def isAscii (c : Char) : Bool := c.toNat < 0x80

def isAlphanumeric (c : Char) : Bool :=
  if isAscii c then c.isAlphanum else inRanges CharacterTables.alphanumeric c

def isLower (c : Char) : Bool :=
  if isAscii c then c.isLower else inSteps CharacterTables.lowercase c

def isUpper (c : Char) : Bool :=
  if isAscii c then c.isUpper else inSteps CharacterTables.uppercase c

def isBlank (c : Char) : Bool :=
  let n := c.toNat
  (9 ≤ n && n ≤ 13) || n == 0x20 || n == 0x85 || n == 0xa0 || n == 0x1680 ||
    (0x2000 ≤ n && n ≤ 0x200a) || n == 0x2028 || n == 0x2029 || n == 0x202f || n == 0x205f ||
    n == 0x3000

def isWordPart (c : Char) : Bool :=
  if isAscii c then c.isAlphanum || c == '_' else inRanges CharacterTables.wordPart c

def isUnprintable (c : Char) : Bool :=
  if isAscii c then c.toNat < 0x20 || c.toNat == 0x7f
  else inRanges CharacterTables.unprintable c

def shifted? (table : List (Nat × Nat × Nat × Int)) (c : Char) : Option Char :=
  (table.find? fun (first, last, step, _) =>
    first ≤ c.toNat && c.toNat ≤ last && (c.toNat - first) % step == 0).map
      fun (_, _, _, distance) => Char.ofNat (c.toNat + distance).toNat

def upperForm (c : Char) : List Char :=
  if isAscii c then [c.toUpper]
  else
    match CharacterTables.upperSpelling.find? fun entry => entry.1 == c.toNat with
    | some (_, form) => form.map Char.ofNat
    | none => [(shifted? CharacterTables.upperShift c).getD c]

def lowerForm (c : Char) : List Char :=
  if isAscii c then [c.toLower]
  else if c.toNat = 0x130 then ['i', Char.ofNat 0x307]
  else [(shifted? CharacterTables.lowerShift c).getD c]

def capitalSigma : Char := Char.ofNat 0x3a3
def finalSigma : Char := Char.ofNat 0x3c2

def isCased (c : Char) : Bool :=
  if isAscii c then c.isAlpha else inRanges CharacterTables.cased c

def isCaseIgnorable (c : Char) : Bool :=
  if isAscii c then "'.:^\x60".toList.contains c
  else inRanges CharacterTables.caseIgnorable c

def nextIsCased (rest : List Char) : Bool :=
  match rest.dropWhile isCaseIgnorable with
  | c :: _ => isCased c
  | [] => false

/-- Lowers a text whose beginning, in reverse, is `before`. A capital sigma that ends a word has a
form of its own. -/
def lowerFrom (before : List Char) : List Char → List Char
  | [] => []
  | c :: rest =>
    (if c = capitalSigma ∧ nextIsCased before ∧ ¬ nextIsCased rest then [finalSigma]
      else lowerForm c) ++ lowerFrom (c :: before) rest

def lower (text : String) : String := String.ofList (lowerFrom [] text.toList)

def upper (text : String) : String := String.ofList (text.toList.flatMap upperForm)

end Typewright.Text
