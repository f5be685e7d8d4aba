import Isolation.Proofs.Binary64.Precision
import Isolation.Proofs.Json.Float

/-!
# How floating-point numbers are read

Reading rounds the digits of a number and the power of ten that belongs to them each for itself, and
then their product or quotient once more. So it finds the number that is nearest to what is written
only as far as these errors cancel out, as they do where both are numbers of the format.

## Main definitions

* `Binary64.estimate` — what reading makes of digits and a power of ten

## Main results

* `Number.scaleBy?_eq_estimate` — reading finds the estimate
-/

namespace Isolation

namespace Binary64

/-- A power of ten, rounded. -/
def tenTo (n : ℕ) : ℚ := rounded (10 ^ n : ℕ)

/-- The rounded digits of a decimal times or over the rounded power of ten. A power beyond the range
of the format is taken in two steps, with the first one rounded too. -/
def scaled (x : Decimal) : ℚ :=
  if 0 ≤ x.exponent then rounded x.digits * tenTo x.exponent.toNat
  else if -308 ≤ x.exponent then rounded x.digits / tenTo (-x.exponent).toNat
  else rounded (rounded x.digits / tenTo 308) / tenTo (-x.exponent - 308).toNat

/-- What reading makes of a decimal. -/
def estimate (x : Decimal) : Binary64 := round (scaled x)

/-! ### Rounded operands -/

theorem isNegative_ofNat (n : ℕ) : (ofNat n).isNegative = false := by
  rw [ofNat_eq_round]
  exact isNegative_round _

theorem magnitude_ofNat (n : ℕ) : (ofNat n).magnitude = rounded n := by
  rw [ofNat_eq_round, rounded]

theorem withSign_false (x : Binary64) : withSign false x = x := rfl

theorem mul_ofNat (n k : ℕ) : (ofNat n).mul (ofNat (10 ^ k)) = round (rounded n * tenTo k) := by
  rw [mul_eq_round, isNegative_ofNat, isNegative_ofNat, magnitude_ofNat, magnitude_ofNat,
    bne_self_eq_false, withSign_false, tenTo]

theorem div_ofNat {x : Binary64} (positive : x.isNegative = false) (k : ℕ) :
    x.div (ofNat (10 ^ k)) = round (x.magnitude / tenTo k) := by
  rw [div_eq_round, positive, isNegative_ofNat, magnitude_ofNat, bne_self_eq_false, withSign_false,
    tenTo]

theorem rounded_pos {n : ℕ} (hn : 0 < n) (hlt : n < (2 ^ 54 - 1) * 2 ^ 970) : 0 < rounded n := by
  have hpos : (0 : ℚ) < n := by exact_mod_cast hn
  refine lt_of_lt_of_le ?_ (rounded_natCast_bounds hn hlt).1
  exact mul_pos (by norm_num) hpos

/-- Seventeen digits are far below the limit, and so are the powers of ten up to the greatest. -/
theorem lt_of_digits {n : ℕ} (h : n ≤ 10 ^ 17) : n < (2 ^ 54 - 1) * 2 ^ 970 :=
  h.trans_lt (by decide +kernel)

theorem pow_lt_of_le {n : ℕ} (h : n ≤ 308) : 10 ^ n < (2 ^ 54 - 1) * 2 ^ 970 :=
  (Nat.pow_le_pow_right (by decide) h).trans_lt (by decide +kernel)

end Binary64

namespace Json.Number

open Binary64 (ofNat estimate)

/-! ### Reading finds the estimate -/

variable {x : Decimal}

/-- Within the range of the powers of ten, digits are scaled in one step. -/
theorem scaleBy?_step (fuel : ℕ) {y z : Binary64} {e : ℤ}
    (hrange : e.natAbs ≤ 308)
    (result : z = if 0 ≤ e then y.mul (ofNat (10 ^ e.toNat)) else y.div (ofNat (10 ^ (-e).toNat)))
    (finite : z.isFinite = true) : scaleBy? (fuel + 1) y e = some z := by
  rw [scaleBy?, if_pos hrange]
  split at result
  · next hsign =>
    have habs : e.natAbs = e.toNat := by omega
    rw [if_pos hsign, habs, ← result, if_pos finite]
  · next hsign =>
    have habs : e.natAbs = (-e).toNat := by omega
    rw [if_neg hsign, habs, ← result]

/-- Digits are scaled to the estimate, unless it is infinite. -/
theorem scaleBy?_eq_estimate (hdigits : x.digits ≤ 10 ^ 17) (hlow : -340 ≤ x.exponent)
    (hhigh : x.exponent ≤ 308) (finite : (estimate x).isFinite = true) :
    scaleBy? 4 (ofNat x.digits) x.exponent = some (estimate x) := by
  have positive := Binary64.isNegative_ofNat x.digits
  by_cases hrange : x.exponent.natAbs ≤ 308
  · refine scaleBy?_step 3 hrange ?_ finite
    rw [estimate, Binary64.scaled]
    split
    · rw [Binary64.mul_ofNat]
    · next hsign =>
      rw [if_pos (by omega), Binary64.div_ofNat positive, Binary64.magnitude_ofNat]
  · have hsign : ¬ 0 ≤ x.exponent := by omega
    have hfar : ¬ -308 ≤ x.exponent := by omega
    rw [scaleBy?, if_neg hrange]
    split
    -- only zero has no bits, and it is estimated as such
    · next hzero =>
      have hvalue : Binary64.rounded x.digits = 0 := by
        rw [← Binary64.magnitude_ofNat, Binary64.magnitude, hzero, Nat.cast_zero, zero_mul]
      have hnone : x.digits = 0 := by
        by_contra hsome
        exact (Binary64.rounded_pos (Nat.pos_of_ne_zero hsome)
          (Binary64.lt_of_digits hdigits)).ne' hvalue
      rw [estimate, Binary64.scaled, if_neg hsign, if_neg hfar, hvalue, zero_div,
        Binary64.rounded_zero, zero_div, hnone]
      rfl
    · have hfirst := Binary64.div_ofNat positive 308
      rw [Binary64.magnitude_ofNat] at hfirst
      have positive' := Binary64.isNegative_round
        (Binary64.rounded x.digits / Binary64.tenTo 308)
      have hexponent : (-(x.exponent + 308)).toNat = (-x.exponent - 308).toNat := by omega
      rw [hfirst]
      refine scaleBy?_step 2 (by omega) ?_ finite
      rw [estimate, Binary64.scaled, if_neg hsign, if_neg hfar, if_neg (by omega),
        Binary64.div_ofNat positive', hexponent, Binary64.rounded]

end Json.Number

end Isolation
