import Isolation.Proofs.Binary64.Format

/-!
# How far rounding moves

Rounding moves a positive number by a half of the last bit of its significand at most, which is a
fixed share of the number, or of the least number of the format. Numbers of fifty-three bits are not
moved at all.

## Main definitions

* `Binary64.rounded` — the value of a rounded number
* `Binary64.limit` — the least number that is rounded to infinity

## Main results

* `Binary64.isFinite_round` — what is below the limit is rounded to a finite number
* `Binary64.abs_rounded_sub_le`, `Binary64.rounded_bounds` — how far rounding moves
* `Binary64.rounded_mul_two_pow` — numbers that are not moved
-/

namespace Isolation.Binary64

/-- The value of the number nearest to a rational number. -/
def rounded (r : ℚ) : ℚ := (round r).magnitude

/-- Half way from the greatest number to the next power of two. -/
def limit : ℚ := (2 ^ 53 - 1 / 2) * 2 ^ (971 : ℤ)

variable {r : ℚ}

theorem isNegative_round (r : ℚ) : (round r).isNegative = false := by
  rw [round, ofRatio]
  split
  · rfl
  · have hinfinity : infinity.bits.toNat = 2047 * 2 ^ 52 := rfl
    simp only [isNegative, decide_eq_false_iff_not, UInt64.toNat_ofNat', hinfinity]
    omega

theorem rounded_zero : rounded 0 = 0 := by
  rw [rounded, round_zero]
  exact zero_mul _

theorem isFinite_round (hr : 0 ≤ r) (hlt : r < limit) : (round r).isFinite = true := by
  rcases hr.eq_or_lt with rfl | hpos
  · rfl
  · obtain ⟨n, m, q, -, canonical, hround, -⟩ := exists_round hpos hlt
    rw [hround]
    exact canonical.parts_ofParts.2.2.1

/-- The value of a rounded number is the nearest point of its grid. -/
theorem exists_rounded_eq (hr : 0 < r) (hlt : r < limit) :
    ∃ n : ℕ, Nearest (r * 2 ^ (-gridOf r)) n ∧ rounded r = n * 2 ^ gridOf r := by
  obtain ⟨n, m, q, nearest, canonical, hround, hsame⟩ := exists_round hr hlt
  exact ⟨n, nearest, by rw [rounded, hround, canonical.magnitude_ofParts, hsame]⟩

/-- The distance to a point of a grid, in steps of the grid. -/
theorem abs_mul_two_zpow_sub (s r : ℚ) (q : ℤ) :
    |s * 2 ^ q - r| = |r * 2 ^ (-q) - s| * 2 ^ q := by
  have hfactor : s * 2 ^ q - r = (s - r * 2 ^ (-q)) * 2 ^ q := by
    rw [sub_mul, mul_two_zpow_neg_cancel]
  rw [hfactor, abs_mul, abs_of_pos (two_zpow_pos q), abs_sub_comm]

/-- Rounding moves by half a step of the grid at most. -/
theorem abs_rounded_sub_le_grid (hr : 0 < r) (hlt : r < limit) :
    |rounded r - r| ≤ 2 ^ gridOf r / 2 := by
  obtain ⟨n, nearest, hvalue⟩ := exists_rounded_eq hr hlt
  rw [hvalue, abs_mul_two_zpow_sub]
  calc |r * 2 ^ (-gridOf r) - n| * 2 ^ gridOf r ≤ 1 / 2 * 2 ^ gridOf r :=
        mul_le_mul_of_nonneg_right nearest.close (two_zpow_pos _).le
    _ = 2 ^ gridOf r / 2 := by ring

/-- A number that is not too small is large against its grid. -/
theorem two_zpow_gridOf_le (hr : 0 < r) (hlow : 2 ^ (-1022 : ℤ) ≤ r) :
    2 ^ gridOf r ≤ r / 2 ^ 52 := by
  obtain ⟨-, -, hgrid⟩ := gridOf_spec hr
  have hscaled : (2 : ℚ) ^ 52 * 2 ^ gridOf r ≤ r := by
    rcases hgrid with hleast | hleading
    · rw [hleast, ← zpow_natCast, ← zpow_add₀ two_ne_zero]
      exact hlow
    · exact le_mul_two_zpow_neg_iff.1 hleading
  rw [le_div_iff₀ (by norm_num)]
  linarith

/-- Rounding moves by a half of the last bit, or of the least number. -/
theorem abs_rounded_sub_le (hr : 0 < r) (hlt : r < limit) :
    |rounded r - r| ≤ r / 2 ^ 53 + 2 ^ (-1075 : ℤ) := by
  have hgrid := abs_rounded_sub_le_grid hr hlt
  have hleast := two_zpow_pos (-1075)
  have hhalf : (2 : ℚ) ^ (-1074 : ℤ) = 2 * 2 ^ (-1075 : ℤ) := by
    rw [← zpow_one_add₀ two_ne_zero]
    rfl
  rcases lt_or_ge r (2 ^ (-1022 : ℤ)) with hsmall | hnormal
  · have hlog : Int.log 2 r < -1022 := (log_lt_iff hr).2 hsmall
    have hgridOf : gridOf r = -1074 := by
      rw [gridOf]
      omega
    have hshare : 0 < r / 2 ^ 53 := by positivity
    rw [hgridOf, hhalf] at hgrid
    linarith
  · have := two_zpow_gridOf_le hr hnormal
    linarith

/-- A number that is neither too small nor too large is moved by a fixed share of it at most. -/
theorem rounded_bounds (hlow : 2 ^ (-1022 : ℤ) ≤ r) (hlt : r < limit) :
    (1 - 1 / 2 ^ 53) * r ≤ rounded r ∧ rounded r ≤ (1 + 1 / 2 ^ 53) * r := by
  have hr : 0 < r := (two_zpow_pos _).trans_le hlow
  have hgrid := abs_le.1 (abs_rounded_sub_le_grid hr hlt)
  have hshare := two_zpow_gridOf_le hr hlow
  constructor <;> linarith [hgrid.1, hgrid.2]

theorem natCast_lt_limit {n : ℕ} (h : n < (2 ^ 54 - 1) * 2 ^ 970) : (n : ℚ) < limit := by
  have hcast (power : ℕ) : (((2 ^ 54 - 1) * power : ℕ) : ℚ) = (2 ^ 53 - 1 / 2) * (2 * power) := by
    push_cast
    ring
  have hpower (b : ℕ) : (2 : ℚ) ^ (b + 1 : ℤ) = 2 * (2 ^ b : ℕ) := by
    rw [zpow_add_one₀ two_ne_zero, zpow_natCast, mul_comm, Nat.cast_pow, Nat.cast_ofNat]
  rw [limit, show (2 : ℚ) ^ (971 : ℤ) = 2 * (2 ^ 970 : ℕ) from hpower 970, ← hcast]
  exact_mod_cast h

/-- Positive integers are not too small. -/
theorem rounded_natCast_bounds {n : ℕ} (hn : 0 < n) (hlt : n < (2 ^ 54 - 1) * 2 ^ 970) :
    (1 - 1 / 2 ^ 53) * (n : ℚ) ≤ rounded n ∧ rounded n ≤ (1 + 1 / 2 ^ 53) * n := by
  have hone : (1 : ℚ) ≤ n := by exact_mod_cast hn
  refine rounded_bounds (le_trans ?_ hone) (natCast_lt_limit hlt)
  rw [zpow_neg]
  exact inv_le_one_of_one_le₀ (one_le_zpow₀ one_le_two (by decide))

/-- What is an integer on its grid is not moved. -/
theorem rounded_eq_self {n : ℕ} (hr : 0 < r) (hgrid : gridOf r ≤ 971)
    (hinteger : r * 2 ^ (-gridOf r) = n) : rounded r = r := by
  obtain ⟨hge, hupper, hleading⟩ := gridOf_spec hr
  have hnearest : Nearest (r * 2 ^ (-gridOf r)) n := by
    rw [hinteger]
    constructor <;> norm_num
  rw [hinteger] at hupper hleading
  have canonical : Canonical n (gridOf r) :=
    ⟨by exact_mod_cast hupper, hge, hgrid, hleading.imp_right fun h => by exact_mod_cast h⟩
  rw [rounded, round_eq_ofParts hr hnearest, canonical.magnitude_ofParts, ← hinteger,
    mul_two_zpow_neg_cancel]

/-- Integers with fifty-three bits, and zeros behind them, are numbers of the format. -/
theorem rounded_mul_two_pow {a b : ℕ} (ha : a < 2 ^ 53) (hb : b ≤ 971) :
    rounded (a * 2 ^ b : ℕ) = (a * 2 ^ b : ℕ) := by
  rcases Nat.eq_zero_or_pos a with rfl | hpos
  · rw [Nat.zero_mul, Nat.cast_zero, rounded_zero]
  have hr : (0 : ℚ) < (a * 2 ^ b : ℕ) := by exact_mod_cast Nat.mul_pos hpos (Nat.two_pow_pos b)
  have hgrid : gridOf ((a * 2 ^ b : ℕ) : ℚ) ≤ b := by
    have hlog : Int.log 2 ((a * 2 ^ b : ℕ) : ℚ) < 53 + b := by
      rw [log_lt_iff hr, zpow_add₀ two_ne_zero, zpow_natCast, Nat.cast_mul, Nat.cast_pow]
      exact mul_lt_mul_of_pos_right (by exact_mod_cast ha) (by positivity)
    rw [gridOf]
    omega
  refine rounded_eq_self (n := a * 2 ^ (b - gridOf ((a * 2 ^ b : ℕ) : ℚ)).toNat) hr (by omega) ?_
  generalize gridOf ((a * 2 ^ b : ℕ) : ℚ) = q at hgrid ⊢
  rw [Nat.cast_mul, Nat.cast_mul, mul_assoc, Nat.cast_pow, Nat.cast_pow, ← zpow_natCast,
    ← zpow_natCast, Nat.cast_ofNat, ← zpow_add₀ two_ne_zero]
  congr 2
  omega

end Isolation.Binary64
