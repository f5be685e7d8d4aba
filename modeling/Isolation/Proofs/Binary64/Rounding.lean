import Isolation.Binary64.Basic
import Mathlib.Data.Int.Log
import Mathlib.Data.Rat.Floor
import Mathlib.Tactic.FieldSimp
import Mathlib.Tactic.Linarith
import Mathlib.Tactic.Positivity

/-!
# Rounding

Quotients are rounded by integers alone. What this means is said of rational numbers: the
significand of the result is the integer nearest to the quotient on the grid of its power of two, so
that the result depends on the value of the quotient only, and products and quotients of numbers are
the rounded products and quotients of their values.

## Main definitions

* `Binary64.magnitude` — the absolute value of a finite number
* `Binary64.Nearest` — the integer nearest to a rational number
* `Binary64.round` — the number nearest to a rational number

## Main results

* `Binary64.ofRatio_eq_round` — rounding a quotient is rounding its value
* `Binary64.round_eq_ofParts` — what rounding finds
* `Binary64.mul_eq_round`, `Binary64.div_eq_round` — rounded products and quotients
-/

namespace Isolation.Binary64

/-- The absolute value of a finite number. -/
def magnitude (x : Binary64) : ℚ := x.significand * 2 ^ x.scale

/-- An integer is nearest to a rational number; half way between two, the even one is. -/
structure Nearest (s : ℚ) (m : ℕ) : Prop where
  close : |s - m| ≤ 1 / 2
  odd_close : m % 2 = 1 → |s - m| < 1 / 2

/-- The positive number with a given significand and scale, or infinity. -/
def ofParts (m : ℕ) (q : ℤ) : Binary64 :=
  ⟨UInt64.ofNat (min ((q + 1074).toNat * 2 ^ 52 + m) infinity.bits.toNat)⟩

/-- The number nearest to a rational number that is not negative. -/
def round (r : ℚ) : Binary64 := ofRatio r.num.toNat r.den

/-- The power of two that belongs to the significand of a rounded number. -/
def gridOf (r : ℚ) : ℤ := max (-1074) (Int.log 2 r - 52)

/-! ### The nearest integer -/

theorem Nearest.le {s : ℚ} {m m' : ℕ} (h : Nearest s m) (h' : Nearest s m') : m ≤ m' := by
  by_contra hlt
  have hstep : (m' : ℚ) + 1 ≤ m := by exact_mod_cast Nat.not_le.1 hlt
  have hm := abs_le.1 h.close
  have hm' := abs_le.1 h'.close
  -- both are half way off, so that both are even, and yet they are neighbours
  have hnext : m = m' + 1 := by
    have : (m : ℚ) ≤ m' + 1 := by linarith [hm.1, hm'.2]
    exact_mod_cast le_antisymm this hstep
  rcases Nat.mod_two_eq_zero_or_one m with heven | hodd
  · have := abs_lt.1 (h'.odd_close (by omega))
    linarith [hm.1, this.2]
  · have := abs_lt.1 (h.odd_close hodd)
    linarith [this.1, hm'.2]

theorem Nearest.eq {s : ℚ} {m m' : ℕ} (h : Nearest s m) (h' : Nearest s m') : m = m' :=
  le_antisymm (h.le h') (h'.le h)

section Fraction

variable {low : ℕ} {t : ℚ}

theorem nearest_below (hnonneg : 0 ≤ t) (ht : t < 1 / 2) : Nearest (low + t) low := by
  have hclose : |(low : ℚ) + t - low| < 1 / 2 := by rwa [add_sub_cancel_left, abs_of_nonneg hnonneg]
  exact ⟨hclose.le, fun _ => hclose⟩

theorem nearest_above (ht : 1 / 2 < t) (hlt : t < 1) : Nearest (low + t) (low + 1) := by
  have hclose : |(low : ℚ) + t - (low + 1 : ℕ)| < 1 / 2 := by
    rw [Nat.cast_add, Nat.cast_one, abs_lt]
    constructor <;> linarith
  exact ⟨hclose.le, fun _ => hclose⟩

theorem nearest_half (low : ℕ) : Nearest (low + 1 / 2) (low + low % 2) := by
  refine ⟨?_, fun hodd => absurd hodd (by omega)⟩
  rcases Nat.mod_two_eq_zero_or_one low with hlow | hlow
  · rw [hlow, Nat.add_zero, add_sub_cancel_left, abs_of_pos one_half_pos]
  · rw [hlow, Nat.cast_add, Nat.cast_one, abs_le]
    constructor <;> linarith

end Fraction

theorem nearest_roundDiv (num : ℕ) {den : ℕ} (hden : 0 < den) :
    Nearest (num / den) (roundDiv num den) := by
  have hpos : (0 : ℚ) < den := by exact_mod_cast hden
  -- the quotient is an integer and the part of the denominator that is left over
  obtain ⟨low, hlow⟩ : ∃ low, num / den = low := ⟨_, rfl⟩
  obtain ⟨rest, hrest⟩ : ∃ rest, num % den = rest := ⟨_, rfl⟩
  have hsum : (num : ℚ) / den = low + rest / den := by
    have hnum : den * low + rest = num := by rw [← hlow, ← hrest, Nat.div_add_mod]
    rw [← hnum, Nat.cast_add, Nat.cast_mul]
    field_simp
  have hrestLt : (rest : ℚ) / den < 1 := by
    rw [div_lt_one hpos]
    exact_mod_cast hrest ▸ Nat.mod_lt num hden
  have hbelow : (rest : ℚ) / den < 1 / 2 ↔ 2 * rest < den := by
    rw [div_lt_div_iff₀ hpos two_pos, one_mul, mul_comm]
    exact_mod_cast Iff.rfl
  have habove : 1 / 2 < (rest : ℚ) / den ↔ den < 2 * rest := by
    rw [div_lt_div_iff₀ two_pos hpos, one_mul, mul_comm]
    exact_mod_cast Iff.rfl
  rw [hsum]
  simp only [roundDiv, hlow, hrest]
  split
  · next h => exact nearest_below (by positivity) (hbelow.2 h)
  · next hnotBelow =>
    split
    · next h => exact nearest_above (habove.2 h) hrestLt
    · next hnotAbove =>
      have hhalf : (rest : ℚ) / den = 1 / 2 :=
        le_antisymm (not_lt.1 (mt habove.1 hnotAbove)) (not_lt.1 (mt hbelow.1 hnotBelow))
      rw [hhalf]
      exact nearest_half low

/-! ### Powers by integers -/

/-- A power with an integer exponent as a quotient of powers of which one is trivial. -/
theorem zpow_eq_div {a : ℚ} (ha : a ≠ 0) (e : ℤ) : a ^ e = a ^ e.toNat / a ^ (-e).toNat := by
  rw [← zpow_natCast, ← zpow_natCast, ← zpow_sub₀ ha]
  congr 1
  omega

theorem two_zpow_pos (e : ℤ) : (0 : ℚ) < 2 ^ e := zpow_pos two_pos e

section Powers

variable {r s : ℚ} {q e : ℤ}

theorem mul_two_zpow_cancel (s : ℚ) (q : ℤ) : s * 2 ^ q * 2 ^ (-q) = s := by
  rw [zpow_neg, mul_inv_cancel_right₀ (two_zpow_pos q).ne']

theorem mul_two_zpow_neg_cancel (s : ℚ) (q : ℤ) : s * 2 ^ (-q) * 2 ^ q = s := by
  rw [zpow_neg, inv_mul_cancel_right₀ (two_zpow_pos q).ne']

theorem le_mul_two_zpow_neg_iff : s ≤ r * 2 ^ (-q) ↔ s * 2 ^ q ≤ r := by
  rw [zpow_neg, ← div_eq_mul_inv, le_div_iff₀ (two_zpow_pos q)]

theorem mul_two_zpow_neg_lt_iff : r * 2 ^ (-q) < s ↔ r < s * 2 ^ q := by
  rw [zpow_neg, ← div_eq_mul_inv, div_lt_iff₀ (two_zpow_pos q)]

theorem mul_two_zpow_neg_le_iff : r * 2 ^ (-q) ≤ s ↔ r ≤ s * 2 ^ q := by
  rw [zpow_neg, ← div_eq_mul_inv, div_le_iff₀ (two_zpow_pos q)]

theorem le_log_iff (hr : 0 < r) : e ≤ Int.log 2 r ↔ (2 : ℚ) ^ e ≤ r :=
  (Int.zpow_le_iff_le_log Nat.one_lt_two hr).symm

theorem log_lt_iff (hr : 0 < r) : Int.log 2 r < e ↔ r < (2 : ℚ) ^ e :=
  (Int.lt_zpow_iff_log_lt Nat.one_lt_two hr).symm

/-- On a grid, a number has some bits or more. -/
theorem two_pow_le_scaled_iff (hr : 0 < r) (n : ℕ) :
    2 ^ n ≤ r * 2 ^ (-q) ↔ n + q ≤ Int.log 2 r := by
  rw [le_mul_two_zpow_neg_iff, le_log_iff hr, zpow_add₀ two_ne_zero, zpow_natCast]

/-- On a grid, a number has fewer bits. -/
theorem scaled_lt_two_pow_iff (hr : 0 < r) (n : ℕ) :
    r * 2 ^ (-q) < 2 ^ n ↔ Int.log 2 r < n + q := by
  rw [mul_two_zpow_neg_lt_iff, log_lt_iff hr, zpow_add₀ two_ne_zero, zpow_natCast]

end Powers

theorem mul_two_zpow (num den : ℕ) (e : ℤ) :
    (num : ℚ) / den * 2 ^ e = (num * 2 ^ e.toNat : ℕ) / (den * 2 ^ (-e).toNat : ℕ) := by
  rw [zpow_eq_div two_ne_zero, div_mul_div_comm]
  push_cast
  rfl

/-- The logarithm of a quotient is the difference of the two logarithms, or one less. -/
theorem log_div_bounds {num den : ℕ} (hnum : 0 < num) (hden : 0 < den) :
    (num.log2 : ℤ) - den.log2 - 1 ≤ Int.log 2 (num / den : ℚ) ∧
      Int.log 2 (num / den : ℚ) < (num.log2 : ℤ) - den.log2 + 1 := by
  have hpos : (0 : ℚ) < den := by exact_mod_cast hden
  have hquotient : (0 : ℚ) < num / den := div_pos (by exact_mod_cast hnum) hpos
  have hlow {n : ℕ} (hn : 0 < n) : (2 : ℚ) ^ (n.log2 : ℤ) ≤ n := by
    rw [zpow_natCast]
    exact_mod_cast Nat.log2_self_le hn.ne'
  have hhigh (n : ℕ) : (n : ℚ) < 2 ^ ((n.log2 : ℤ) + 1) := by
    have : n < 2 ^ (n.log2 + 1) := Nat.lt_log2_self
    exact_mod_cast this
  rw [le_log_iff hquotient, log_lt_iff hquotient, le_div_iff₀ hpos, div_lt_iff₀ hpos]
  constructor
  · refine le_trans ?_ (hlow hnum)
    calc (2 : ℚ) ^ ((num.log2 : ℤ) - den.log2 - 1) * den
        ≤ 2 ^ ((num.log2 : ℤ) - den.log2 - 1) * 2 ^ ((den.log2 : ℤ) + 1) :=
          mul_le_mul_of_nonneg_left (hhigh den).le (two_zpow_pos _).le
      _ = 2 ^ (num.log2 : ℤ) := by
          rw [← zpow_add₀ two_ne_zero]
          congr 1
          omega
  · refine (hhigh num).trans_le ?_
    calc (2 : ℚ) ^ ((num.log2 : ℤ) + 1)
        = 2 ^ ((num.log2 : ℤ) - den.log2 + 1) * 2 ^ (den.log2 : ℤ) := by
          rw [← zpow_add₀ two_ne_zero]
          congr 1
          omega
      _ ≤ 2 ^ ((num.log2 : ℤ) - den.log2 + 1) * den :=
          mul_le_mul_of_nonneg_left (hlow hden) (two_zpow_pos _).le

theorem floorLog_eq_log {num den : ℕ} (hnum : 0 < num) (hden : 0 < den) :
    floorLog num den = Int.log 2 (num / den : ℚ) := by
  have hpos : (0 : ℚ) < den := by exact_mod_cast hden
  have hquotient : (0 : ℚ) < num / den := div_pos (by exact_mod_cast hnum) hpos
  obtain ⟨hlow, hhigh⟩ := log_div_bounds hnum hden
  rw [floorLog]
  generalize (num.log2 : ℤ) - den.log2 = guess at hlow hhigh
  have htest : den * 2 ^ guess.toNat ≤ num * 2 ^ (-guess).toNat ↔
      guess ≤ Int.log 2 (num / den : ℚ) := by
    rw [le_log_iff hquotient, le_div_iff₀ hpos, zpow_eq_div two_ne_zero, div_mul_eq_mul_div,
      div_le_iff₀ (by positivity), mul_comm]
    exact_mod_cast Iff.rfl
  simp only [htest]
  split <;> omega

/-! ### Rounding by value -/

theorem ofRatio_of_zero {num den : ℕ} (h : num = 0 ∨ den = 0) : ofRatio num den = ⟨0⟩ := if_pos h

/-- A positive quotient is rounded to the integer nearest to its value on the grid. -/
theorem ofRatio_eq_ofParts {num den m : ℕ} {r : ℚ} (hnum : 0 < num) (hden : 0 < den)
    (value : (num : ℚ) / den = r) (nearest : Nearest (r * 2 ^ (-gridOf r)) m) :
    ofRatio num den = ofParts m (gridOf r) := by
  have hgrid : max (-1074) (floorLog num den - 52) = gridOf r := by
    rw [floorLog_eq_log hnum hden, value, gridOf]
  have hm : roundDiv (num * 2 ^ (-gridOf r).toNat) (den * 2 ^ (gridOf r).toNat) = m := by
    refine (nearest_roundDiv _ (Nat.mul_pos hden (Nat.two_pow_pos _))).eq ?_
    have hscaled := mul_two_zpow num den (-gridOf r)
    rw [neg_neg, value] at hscaled
    rw [← hscaled]
    exact nearest
  rw [ofRatio, if_neg (by omega)]
  simp only [hgrid, hm]
  rfl

theorem exists_nearest {s : ℚ} (hs : 0 ≤ s) : ∃ m, Nearest s m := by
  refine ⟨roundDiv s.num.toNat s.den, ?_⟩
  have h := nearest_roundDiv s.num.toNat s.pos
  have hcast : ((s.num.toNat : ℕ) : ℚ) / s.den = s := by
    rw [← Int.cast_natCast, Int.toNat_of_nonneg (Rat.num_nonneg.2 hs), Rat.num_div_den]
  rw [hcast] at h
  exact h

/-- The significand of a rounded number is the integer nearest to it on its grid. -/
theorem round_eq_ofParts {r : ℚ} {m : ℕ} (hr : 0 < r) (nearest : Nearest (r * 2 ^ (-gridOf r)) m) :
    round r = ofParts m (gridOf r) := by
  have hnum : 0 < r.num := Rat.num_pos.2 hr
  refine ofRatio_eq_ofParts (by omega) r.pos ?_ nearest
  rw [← Int.cast_natCast, Int.toNat_of_nonneg hnum.le, Rat.num_div_den]

/-- Rounding a quotient is rounding its value. -/
theorem ofRatio_eq_round (num den : ℕ) : ofRatio num den = round (num / den) := by
  by_cases hzero : num = 0 ∨ den = 0
  · have hvalue : (num : ℚ) / den = 0 := by
      rcases hzero with rfl | rfl <;> simp
    rw [ofRatio_of_zero hzero, hvalue]
    rfl
  · obtain ⟨hnum, hden⟩ := not_or.1 hzero
    have hnum := Nat.pos_of_ne_zero hnum
    have hden := Nat.pos_of_ne_zero hden
    have hpos : (0 : ℚ) < num / den := by positivity
    obtain ⟨m, nearest⟩ := exists_nearest
      (mul_nonneg hpos.le (zpow_nonneg zero_le_two (-gridOf (num / den : ℚ))))
    rw [ofRatio_eq_ofParts hnum hden rfl nearest, round_eq_ofParts hpos nearest]

theorem ofNat_eq_round (n : ℕ) : ofNat n = round n := by
  rw [ofNat, ofRatio_eq_round, Nat.cast_one, div_one]

/-- A product is the rounded product of the values. -/
theorem mul_eq_round (x y : Binary64) :
    x.mul y = withSign (x.isNegative != y.isNegative) (round (x.magnitude * y.magnitude)) := by
  have hvalue := mul_two_zpow (x.significand * y.significand) 1 (x.scale + y.scale)
  rw [Nat.one_mul, Nat.cast_one, div_one, zpow_add₀ two_ne_zero, Nat.cast_mul,
    mul_mul_mul_comm] at hvalue
  rw [mul, ofRatio_eq_round, ← hvalue]
  rfl

/-- A quotient is the rounded quotient of the values. -/
theorem div_eq_round (x y : Binary64) :
    x.div y = withSign (x.isNegative != y.isNegative) (round (x.magnitude / y.magnitude)) := by
  have hvalue := mul_two_zpow x.significand y.significand (x.scale - y.scale)
  rw [zpow_sub₀ two_ne_zero, div_mul_div_comm] at hvalue
  rw [div, ofRatio_eq_round, ← hvalue]
  rfl

end Isolation.Binary64
