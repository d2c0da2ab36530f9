import Typewright.Binary64

/-!
The texts of binary floating-point numbers: the fewest decimal digits that read back, laid out as
a format asks, and decimal texts read to the nearest number.
-/
namespace Typewright.Binary64

structure Decimal where
  digits : Nat
  scale : Int
deriving DecidableEq, Repr

def decimalExponent (num den : Nat) : Int :=
  if den ≤ num then ((Nat.toDigits 10 (num / den)).length : Int) - 1
  else
    let k := (Nat.toDigits 10 (den / num)).length
    if den ≤ num * tenTo (k - 1) then 1 - (k : Int) else -(k : Int)

/-- The point with `count` digits that lies nearest to `x` among the points that round to `x`.
`x` is the middle of an interval of numbers that round to it, whose ends belong to it when the
significand is even. All is measured in quarters of the last binary place. -/
def pointWith? (x : Binary64) (exponent : Int) (count : Nat) : Option Decimal :=
  let scale := exponent - count + 1
  let power := x.power - 2
  let quarters := 4 * x.significand
  let low := if x.fraction.val = 0 ∧ 1 < x.exponent.val then quarters - 1 else quarters - 2
  let high := quarters + 2
  let unit := twoTo power.toNat * tenTo (-scale).toNat
  let grid := twoTo (-power).toNat * tenTo scale.toNat
  let closed := x.significand % 2 == 0
  let inside (point : Nat) : Bool :=
    if closed then low * unit ≤ point * grid && point * grid ≤ high * unit
    else low * unit < point * grid && point * grid < high * unit
  let value := quarters * unit
  let below := value / grid
  let above := below + 1
  let belowIn := inside below && below != 0
  if belowIn && (!inside above || 2 * (value % grid) ≤ grid) then some ⟨below, scale⟩
  else if inside above then some ⟨above, scale⟩
  else none

def dropZeros : Nat → Decimal → Decimal
  | 0, d => d
  | fuel + 1, d =>
    if d.digits % 10 = 0 ∧ d.digits ≠ 0 then dropZeros fuel ⟨d.digits / 10, d.scale + 1⟩ else d

/-- The fewest digits that read back as `x`, and of those the nearest to `x`; `x` is finite and
not zero. Seventeen digits always suffice. -/
def shortest (x : Binary64) : Decimal :=
  let (num, den) := x.ratio
  let exponent := decimalExponent num den
  let found := (List.range 17).findSome? fun count => pointWith? x exponent (count + 1)
  dropZeros 17 (found.getD ⟨x.significand, x.power⟩)

/-- How a format writes numbers. The point position of a number is the count of digits before the
point in positional notation, so `0.01` has position `-1`. -/
structure Layout where
  /-- Smallest and largest point position written without exponent; `none` has no limit. -/
  window : Option (Int × Int)
  marksWhole : Bool
  signsExponent : Bool
  infinityText : String := "inf"
  notANumberText : String := "NaN"

def zeros (count : Nat) : String := String.ofList (List.replicate count '0')

def Layout.positional (layout : Layout) (digits : List Char) (point : Int) : String :=
  let whole := if layout.marksWhole then ".0" else ""
  if (digits.length : Int) ≤ point then
    String.ofList digits ++ zeros (point - digits.length).toNat ++ whole
  else if 0 < point then
    String.ofList (digits.take point.toNat) ++ "." ++ String.ofList (digits.drop point.toNat)
  else "0." ++ zeros (-point).toNat ++ String.ofList digits

def Layout.scientific (layout : Layout) (digits : List Char) (point : Int) : String :=
  let exponent := point - 1
  let sign := if exponent < 0 then "-" else if layout.signsExponent then "+" else ""
  let lead := String.ofList (digits.take 1)
  let rest := String.ofList (digits.drop 1)
  lead ++ (if rest.isEmpty then "" else "." ++ rest) ++ "e" ++ sign ++
    String.ofList (Nat.toDigits 10 exponent.natAbs)

def Layout.magnitude (layout : Layout) (x : Binary64) : String :=
  if x.isZero then if layout.marksWhole then "0.0" else "0"
  else
    let decimal := x.shortest
    let digits := Nat.toDigits 10 decimal.digits
    let point : Int := digits.length + decimal.scale
    match layout.window with
    | some (least, most) =>
      if least ≤ point && point ≤ most then layout.positional digits point
      else layout.scientific digits point
    | none => layout.positional digits point

def Layout.write (layout : Layout) (x : Binary64) : String :=
  if x.isNotANumber then layout.notANumberText
  else (if x.negative then "-" else "") ++
    if x.isFinite then layout.magnitude x else layout.infinityText

def plain : Layout := ⟨none, false, false, "inf", "NaN"⟩

def pointed : Layout := ⟨none, true, false, "inf", "NaN"⟩

def listed : Layout := ⟨some (-3, 16), true, false, "inf", "NaN"⟩

def digitsValue (digits : List Char) : Nat :=
  digits.foldl (fun n c => 10 * n + (c.toNat - '0'.toNat)) 0

def splitSign : List Char → Bool × List Char
  | '-' :: rest => (true, rest)
  | '+' :: rest => (false, rest)
  | rest => (false, rest)

def read? (text : List Char) : Option Binary64 :=
  let (negative, body) := splitSign text
  let whole := body.takeWhile Char.isDigit
  let afterWhole := body.dropWhile Char.isDigit
  let (decimals, tail) := match afterWhole with
    | '.' :: rest => (rest.takeWhile Char.isDigit, rest.dropWhile Char.isDigit)
    | rest => ([], rest)
  if whole.isEmpty && decimals.isEmpty then none
  else
    let digits := digitsValue (whole ++ decimals)
    match tail with
    | [] => some (ofDecimal negative digits (-(decimals.length : Int)))
    | mark :: rest =>
      let (down, places) := splitSign rest
      if (mark == 'e' || mark == 'E') && !places.isEmpty && places.all Char.isDigit then
        let exponent : Int := digitsValue places
        some (ofDecimal negative digits
          ((if down then -exponent else exponent) - decimals.length))
      else none

end Typewright.Binary64
