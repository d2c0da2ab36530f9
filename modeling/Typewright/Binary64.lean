import Typewright.Powers

/-!
Binary floating-point numbers of 64 bits, as their three fields. Every operation rounds the exact
result once, to the nearest number and on a tie to the one with an even significand, in `Nat`
arithmetic.
-/
namespace Typewright

structure Binary64 where
  negative : Bool
  exponent : Fin 2048
  fraction : Fin 4503599627370496
deriving DecidableEq, Repr

namespace Binary64

def infinity (negative : Bool) : Binary64 := ⟨negative, 2047, 0⟩
def notANumber : Binary64 := ⟨false, 2047, ⟨2251799813685248, by decide⟩⟩
def zero (negative : Bool) : Binary64 := ⟨negative, 0, 0⟩

instance : Inhabited Binary64 := ⟨zero false⟩

def isFinite (x : Binary64) : Bool := x.exponent != 2047
def isNotANumber (x : Binary64) : Bool := x.exponent == 2047 && x.fraction != 0
def isZero (x : Binary64) : Bool := x.exponent == 0 && x.fraction == 0

def negate (x : Binary64) : Binary64 := { x with negative := !x.negative }

def significand (x : Binary64) : Nat :=
  if x.exponent = 0 then x.fraction.val else 4503599627370496 + x.fraction.val

def power (x : Binary64) : Int := if x.exponent = 0 then -1074 else x.exponent.val - 1075

def ratio (x : Binary64) : Nat × Nat :=
  (x.significand * twoTo x.power.toNat, twoTo (-x.power).toNat)

/-- The quotient rounded to the nearest whole number, on a tie to the even one. -/
def roundQuotient (num den : Nat) : Nat :=
  let quotient := num / den
  let rest := 2 * (num % den)
  if den < rest ∨ (rest = den ∧ quotient % 2 = 1) then quotient + 1 else quotient

def assemble (negative : Bool) (significand : Nat) (power : Int) : Binary64 :=
  if small : significand < 4503599627370496 then ⟨negative, 0, ⟨significand, small⟩⟩
  else
    let carried := if significand < 9007199254740992 then power else power + 1
    let field := (carried + 1075).toNat
    if inRange : field < 2047 then
      ⟨negative, ⟨field, by omega⟩,
        ⟨significand % 4503599627370496, Nat.mod_lt _ (by decide)⟩⟩
    else infinity negative

def ofRatio (negative : Bool) (num den : Nat) : Binary64 :=
  if num = 0 then zero negative
  else
    let estimate : Int := (num.log2 : Int) - den.log2
    let below := num * twoTo (-estimate).toNat < den * twoTo estimate.toNat
    let exponent := if below then estimate - 1 else estimate
    let power := max (exponent - 52) (-1074)
    assemble negative (roundQuotient (num * twoTo (-power).toNat) (den * twoTo power.toNat)) power

/-- The number nearest to `digits * 10 ^ scale`. Scales far outside the range are decided without
computing the power. -/
def ofDecimal (negative : Bool) (digits : Nat) (scale : Int) : Binary64 :=
  if digits = 0 then zero negative
  else
    let magnitude := scale + (Nat.log2 digits / 3 : Nat)
    if scale > 400 then infinity negative
    else if magnitude < -800 then zero negative
    else ofRatio negative (digits * tenTo scale.toNat) (tenTo (-scale).toNat)

def ofInt (n : Int) : Binary64 := ofRatio (n < 0) n.natAbs 1

def units (x : Binary64) : Int :=
  let magnitude : Int := (x.significand * twoTo (x.power + 1074).toNat : Nat)
  if x.negative then -magnitude else magnitude

def sameValue (x y : Binary64) : Bool :=
  if x.isNotANumber || y.isNotANumber then false
  else if x.isFinite && y.isFinite then x.units == y.units
  else x == y

def less (x y : Binary64) : Bool :=
  if x.isNotANumber || y.isNotANumber then false
  else if x.isFinite && y.isFinite then x.units < y.units
  else if x.isFinite then !y.negative
  else if y.isFinite then x.negative
  else x.negative && !y.negative

def ofUnits (negativeZero : Bool) (n : Int) : Binary64 :=
  if n = 0 then zero negativeZero else ofRatio (n < 0) n.natAbs (twoTo 1074)

def toInt? (x : Binary64) : Option Int :=
  if x.isFinite && x.units % (twoTo 1074 : Int) == 0 then some (x.units / (twoTo 1074 : Int))
  else none

/-! Arithmetic of finite numbers. -/

def add (x y : Binary64) : Binary64 := ofUnits (x.negative && y.negative) (x.units + y.units)

def subtract (x y : Binary64) : Binary64 := add x y.negate

def multiply (x y : Binary64) : Binary64 :=
  let (a, b) := x.ratio
  let (c, d) := y.ratio
  ofRatio (x.negative != y.negative) (a * c) (b * d)

def divide (x y : Binary64) : Binary64 :=
  if y.isZero then
    if x.isZero then notANumber else infinity (x.negative != y.negative)
  else
    let (a, b) := x.ratio
    let (c, d) := y.ratio
    ofRatio (x.negative != y.negative) (a * d) (b * c)

/-- The remainder of division towards zero, with the sign of the dividend. -/
def remainder (x y : Binary64) : Binary64 :=
  if y.isZero then notANumber else ofUnits x.negative (x.units.tmod y.units)

end Binary64

end Typewright
