/-!
Powers of two and ten, and the ranges of whole numbers of a fixed width.
-/
namespace Typewright

def twoTo (exponent : Nat) : Nat := Nat.pow 2 exponent

def tenTo (exponent : Nat) : Nat := Nat.pow 10 exponent

theorem twoTo_pos (exponent : Nat) : 0 < twoTo exponent := Nat.pow_pos (by decide)

theorem tenTo_pos (exponent : Nat) : 0 < tenTo exponent := Nat.pow_pos (by decide)

def fitsSigned (bits : Nat) (n : Int) : Bool :=
  -(twoTo (bits - 1) : Int) ≤ n && n < (twoTo (bits - 1) : Int)

def fitsUnsigned (bits : Nat) (n : Int) : Bool := 0 ≤ n && n < (twoTo bits : Int)

end Typewright
