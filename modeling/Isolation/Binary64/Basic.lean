/-!
# Binary floating point in 64 bits

Numbers in the double format of IEEE 754, given by their bits. A finite number is a significand
times a power of two, and all arithmetic is done exactly on natural numbers and rounded once.

## Main definitions

* `Binary64` — the bits
* `Binary64.significand`, `Binary64.scale` — a finite number is `± significand · 2 ^ scale`
* `Binary64.ofRatio` — the number nearest to a quotient, of two equally near ones the even one
* `Binary64.mul`, `Binary64.div` — rounded product and quotient of finite numbers
-/

-- powers of natural numbers are meant as such, also where there are those of monoids
attribute [instance (20000), default_instance 20000] instPowNat

namespace Isolation

/-- A number in the double format, given by its bits. -/
structure Binary64 where
  bits : UInt64
  deriving DecidableEq, Repr

namespace Binary64

instance : Inhabited Binary64 := ⟨⟨0⟩⟩

/-- The sign bit. -/
def isNegative (x : Binary64) : Bool := 2 ^ 63 ≤ x.bits.toNat

/-- The eleven bits of the exponent. -/
def exponentField (x : Binary64) : Nat := x.bits.toNat / 2 ^ 52 % 2 ^ 11

/-- The fifty-two bits after the leading bit of the significand. -/
def fraction (x : Binary64) : Nat := x.bits.toNat % 2 ^ 52

/-- Neither infinite nor NaN. -/
def isFinite (x : Binary64) : Bool := x.exponentField ≠ 2047

/-- Not a number. -/
def isNaN (x : Binary64) : Bool := x.exponentField = 2047 && x.fraction ≠ 0

/-- The significand of a finite number as an integer: subnormal numbers lack the leading bit. -/
def significand (x : Binary64) : Nat :=
  if x.exponentField = 0 then x.fraction else 2 ^ 52 + x.fraction

/-- The power of two that the significand of a finite number is multiplied with. -/
def scale (x : Binary64) : Int := (max x.exponentField 1 : Nat) - 1075

/-- Positive infinity; the bits of the finite numbers up to it ascend with the numbers. -/
def infinity : Binary64 := ⟨0x7FF0000000000000⟩

/-- The same number with the other sign. -/
def neg (x : Binary64) : Binary64 := ⟨x.bits ^^^ 0x8000000000000000⟩

/-- The same number with a given sign, for a number without one. -/
def withSign (negative : Bool) (x : Binary64) : Binary64 := if negative then x.neg else x

/-- A quotient rounded to the nearest integer, a half to the even one. -/
def roundDiv (num den : Nat) : Nat :=
  let low := num / den
  -- twice the remainder against the denominator shows the side of a half
  let rest := 2 * (num % den)
  if rest < den then low else if den < rest then low + 1 else low + low % 2

/-- The greatest power of two that is not above a positive quotient. -/
def floorLog (num den : Nat) : Int :=
  -- both logarithms are rounded down, so the guess is one too high at most
  let guess : Int := (num.log2 : Int) - den.log2
  if den * 2 ^ guess.toNat ≤ num * 2 ^ (-guess).toNat then guess else guess - 1

/-- The number nearest to a quotient, of two equally near ones the one with the even significand;
infinity if the quotient is too large. The bits of a positive finite number with significand `m` and
scale `q` are `(q + 1074) · 2 ^ 52 + m`, also where rounding carries into the next power of two. -/
def ofRatio (num den : Nat) : Binary64 :=
  if num = 0 ∨ den = 0 then ⟨0⟩
  else
    -- fifty-three binary digits are kept, and fewer below the normal numbers
    let q := max (-1074) (floorLog num den - 52)
    let m := roundDiv (num * 2 ^ (-q).toNat) (den * 2 ^ q.toNat)
    ⟨UInt64.ofNat (min ((q + 1074).toNat * 2 ^ 52 + m) infinity.bits.toNat)⟩

/-- The number nearest to a natural number. -/
def ofNat (n : Nat) : Binary64 := ofRatio n 1

/-- The rounded product of finite numbers. -/
def mul (x y : Binary64) : Binary64 :=
  let q := x.scale + y.scale
  withSign (x.isNegative != y.isNegative)
    (ofRatio (x.significand * y.significand * 2 ^ q.toNat) (2 ^ (-q).toNat))

/-- The rounded quotient of finite numbers, where the second is not zero. -/
def div (x y : Binary64) : Binary64 :=
  let q := x.scale - y.scale
  withSign (x.isNegative != y.isNegative)
    (ofRatio (x.significand * 2 ^ q.toNat) (y.significand * 2 ^ (-q).toNat))

end Binary64

end Isolation
