import Isolation.Binary64.Basic

/-!
# The shortest decimal that reads back

Every finite number is the nearest one to all the reals in an interval around it. The shortest
decimal of the number is the one in this interval that needs the fewest digits and, of those, lies
nearest to the number. It is searched for on ever finer decimal grids, where only the two neighbours
of the number need a look: if any point of a grid lies in the interval, one of these does.

## Main definitions

* `Decimal` — digits times a power of ten
* `Binary64.ReadsBack` — the decimals in the interval of a positive finite number
* `Binary64.shortest` — the shortest of them
-/

namespace Isolation

/-- A decimal number, `digits · 10 ^ exponent`. -/
structure Decimal where
  digits : Nat
  exponent : Int
  deriving DecidableEq, Repr

namespace Decimal

/-- The same number with its trailing zeros moved into the exponent; the fuel bounds their count. -/
def trimZeros : Nat → Decimal → Decimal
  | 0, x => x
  | fuel + 1, x =>
    if x.digits ≠ 0 ∧ x.digits % 10 = 0 then trimZeros fuel ⟨x.digits / 10, x.exponent + 1⟩ else x

end Decimal

/-- Which of two equally near decimals is taken. -/
inductive Tie
  | upward
  | toEven
  deriving DecidableEq, Repr

namespace Binary64

/-- A decimal and a binary grid on one scale: `digits · 10 ^ exponent` is to `units · 2 ^ (q - 2)`
as `digits · decimalWeight` is to `units · binaryWeight`. -/
def decimalWeight (q exponent : Int) : Nat := 10 ^ exponent.toNat * 2 ^ (2 - q).toNat

@[inherit_doc decimalWeight] def binaryWeight (q exponent : Int) : Nat :=
  10 ^ (-exponent).toNat * 2 ^ (q - 2).toNat

/-- Lower end of the interval of `m · 2 ^ q`, in quarters of `2 ^ q`: half way to the number below,
which is nearer where the power of two changes. -/
def lowerEnd (m : Nat) (q : Int) : Nat :=
  if m = 2 ^ 52 ∧ -1074 < q then 4 * m - 1 else 4 * m - 2

/-- Upper end of the interval of `m · 2 ^ q`, in quarters of `2 ^ q`. -/
def upperEnd (m : Nat) : Nat := 4 * m + 2

/-- The decimals that lie nearer to `m · 2 ^ q` than to any other number of the format; those half
way between two numbers go to the even significand. -/
def ReadsBack (m : Nat) (q : Int) (x : Decimal) : Prop :=
  let point := x.digits * decimalWeight q x.exponent
  let low := lowerEnd m q * binaryWeight q x.exponent
  let high := upperEnd m * binaryWeight q x.exponent
  if m % 2 = 0 then low ≤ point ∧ point ≤ high else low < point ∧ point < high

instance (m : Nat) (q : Int) (x : Decimal) : Decidable (ReadsBack m q x) := by
  unfold ReadsBack
  infer_instance

/-- The better of the two neighbours of `m · 2 ^ q` on the grid of a power of ten, if one of them
reads back. -/
def nearestOnGrid? (tie : Tie) (m : Nat) (q exponent : Int) : Option Decimal :=
  -- on the common scale `v` is the number and `a` one step of the grid
  let a := decimalWeight q exponent
  let v := 4 * m * binaryWeight q exponent
  let low : Decimal := ⟨v / a, exponent⟩
  let high : Decimal := ⟨v / a + 1, exponent⟩
  match decide (ReadsBack m q low), decide (ReadsBack m q high) with
  | true, true =>
    let rest := 2 * (v % a)
    if rest < a then some low
    else if a < rest then some high
    else match tie with
      | .upward => some high
      | .toEven => if low.digits % 2 = 0 then some low else some high
  | true, false => some low
  | false, true => some high
  | false, false => none

/-- The exponent of the first digit of `m · 2 ^ q` in decimal notation. The factor makes the least
number of the format large enough to count its digits. -/
def leadingExponent (m : Nat) (q : Int) : Int :=
  ((Nat.toDigits 10 (m * 2 ^ q.toNat * 10 ^ 343 / 2 ^ (-q).toNat)).length : Int) - 344

/-- The shortest decimal that reads back as the positive number `m · 2 ^ q`, of several the nearest.
Seventeen digits always suffice. -/
def shortest (tie : Tie) (m : Nat) (q : Int) : Decimal :=
  let first := leadingExponent m q
  let grids := (List.range 17).map fun n : Nat => first - n
  ((grids.findSome? (nearestOnGrid? tie m q)).getD ⟨0, 0⟩).trimZeros 20

end Binary64

end Isolation
