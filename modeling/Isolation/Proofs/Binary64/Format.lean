import Isolation.Binary64.Shortest
import Isolation.Proofs.Binary64.Rounding

/-!
# The numbers of the format

A finite number without its sign is given by its significand and its scale, and each pair of a
significand and a scale within the bounds of the format gives a number. A rational number is rounded
to the number in whose interval it lies, whichever powers of two are next to it, and to a finite
number unless it is too large.

## Main definitions

* `Binary64.abs` — a number without its sign
* `Binary64.Canonical` — the significands and scales of numbers
* `Binary64.Near` — the interval of the numbers that are rounded to a number

## Main results

* `Binary64.ofParts_parts`, `Binary64.Canonical.parts_ofParts` — numbers are their parts
* `Binary64.Near.round_eq` — what lies near a number is rounded to it
* `Binary64.exists_round` — what rounding finds is a number of the format
-/

namespace Isolation.Binary64

/-- The same number without its sign. -/
def abs (x : Binary64) : Binary64 := withSign x.isNegative x

/-- The significands and scales of the numbers of the format: the first bit is not there only where
the scale is the least. -/
structure Canonical (m : ℕ) (q : ℤ) : Prop where
  significand_lt : m < 2 ^ 53
  scale_ge : -1074 ≤ q
  scale_le : q ≤ 971
  leading : q = -1074 ∨ 2 ^ 52 ≤ m

/-- The rational numbers nearer to `m · 2 ^ q` than to any other number of the format; those half
way between two numbers go to the even significand. -/
def Near (m : ℕ) (q : ℤ) (r : ℚ) : Prop :=
  if m % 2 = 0 then lowerEnd m q ≤ 4 * (r * 2 ^ (-q)) ∧ 4 * (r * 2 ^ (-q)) ≤ upperEnd m
  else lowerEnd m q < 4 * (r * 2 ^ (-q)) ∧ 4 * (r * 2 ^ (-q)) < upperEnd m

/-! ### Signs -/

theorem toNat_neg (x : Binary64) :
    x.neg.bits.toNat = if x.isNegative then x.bits.toNat - 2 ^ 63 else x.bits.toNat + 2 ^ 63 := by
  have hlt : x.bits.toNat < 2 ^ 64 := x.bits.toNat_lt
  have hxor : x.neg.bits.toNat = x.bits.toNat ^^^ 2 ^ 63 := UInt64.toNat_xor _ _
  have hmod : (x.bits.toNat ^^^ 2 ^ 63) % 2 ^ 63 = x.bits.toNat % 2 ^ 63 := by
    rw [Nat.xor_mod_two_pow, Nat.mod_self, Nat.xor_zero]
  have hdiv : (x.bits.toNat ^^^ 2 ^ 63) / 2 ^ 63 = x.bits.toNat / 2 ^ 63 ^^^ 1 := by
    rw [Nat.xor_div_two_pow]
  rw [hxor, isNegative]
  by_cases hneg : 2 ^ 63 ≤ x.bits.toNat
  · have hone : x.bits.toNat / 2 ^ 63 = 1 := by omega
    rw [hone, Nat.xor_self] at hdiv
    simp only [hneg, decide_true, if_true]
    omega
  · have hzero : x.bits.toNat / 2 ^ 63 = 0 := by omega
    rw [hzero, Nat.zero_xor] at hdiv
    simp only [hneg, decide_false, Bool.false_eq_true, if_false]
    omega

theorem ext_toNat {x y : Binary64} (h : x.bits.toNat = y.bits.toNat) : x = y := by
  cases x
  cases y
  exact congrArg mk (UInt64.toNat_inj.1 h)

theorem neg_neg (x : Binary64) : x.neg.neg = x := by
  refine ext_toNat ?_
  have hlt : x.bits.toNat < 2 ^ 64 := x.bits.toNat_lt
  rw [toNat_neg, isNegative, toNat_neg, isNegative]
  by_cases hneg : 2 ^ 63 ≤ x.bits.toNat
  · have : ¬ 2 ^ 63 ≤ x.bits.toNat - 2 ^ 63 := by omega
    simp only [hneg, this, decide_true, decide_false, Bool.false_eq_true, if_true, if_false]
    omega
  · have : 2 ^ 63 ≤ x.bits.toNat + 2 ^ 63 := by omega
    simp only [hneg, this, decide_true, decide_false, Bool.false_eq_true, if_true, if_false]
    omega

/-- A number is its absolute value with its sign. -/
theorem withSign_abs (x : Binary64) : withSign x.isNegative x.abs = x := by
  rw [abs]
  cases x.isNegative with
  | false => rfl
  | true => exact x.neg_neg

theorem withSign_inj {negative : Bool} {x y : Binary64} :
    withSign negative x = withSign negative y ↔ x = y := by
  cases negative with
  | false => exact Iff.rfl
  | true => exact ⟨fun h => by rw [← x.neg_neg, ← y.neg_neg]; exact congrArg neg h, congrArg neg⟩

/-- The sign has no part in the other bits. -/
theorem fields_neg (x : Binary64) :
    x.neg.exponentField = x.exponentField ∧ x.neg.fraction = x.fraction ∧
      x.neg.isNegative = !x.isNegative := by
  have hlt : x.bits.toNat < 2 ^ 64 := x.bits.toNat_lt
  rw [exponentField, fraction, isNegative, toNat_neg]
  cases hneg : x.isNegative with
  | false =>
    have hge : ¬ 2 ^ 63 ≤ x.bits.toNat := of_decide_eq_false hneg
    rw [if_neg Bool.false_ne_true, exponentField, fraction]
    exact ⟨by omega, by omega, decide_eq_true (by omega)⟩
  | true =>
    have hge : 2 ^ 63 ≤ x.bits.toNat := of_decide_eq_true hneg
    rw [if_pos rfl, exponentField, fraction]
    exact ⟨by omega, by omega, decide_eq_false (by omega)⟩

theorem isNegative_withSign (negative : Bool) {x : Binary64} (positive : x.isNegative = false) :
    (withSign negative x).isNegative = negative := by
  cases negative with
  | false => exact positive
  | true => exact x.fields_neg.2.2.trans (by rw [positive]; rfl)

theorem isFinite_withSign (negative : Bool) (x : Binary64) :
    (withSign negative x).isFinite = x.isFinite := by
  cases negative with
  | false => rfl
  | true =>
    obtain ⟨hfield, -, -⟩ := x.fields_neg
    rw [withSign, if_pos rfl, isFinite, isFinite, hfield]

theorem magnitude_withSign (negative : Bool) (x : Binary64) :
    (withSign negative x).magnitude = x.magnitude := by
  cases negative with
  | false => rfl
  | true =>
    obtain ⟨hfield, hfraction, -⟩ := x.fields_neg
    rw [withSign, if_pos rfl, magnitude, magnitude, significand, significand, scale, scale, hfield,
      hfraction]

theorem toNat_abs (x : Binary64) : x.abs.bits.toNat = x.bits.toNat % 2 ^ 63 := by
  rw [abs]
  cases hneg : x.isNegative with
  | false =>
    have hlt : x.bits.toNat < 2 ^ 63 := Nat.not_le.1 (of_decide_eq_false hneg)
    exact (Nat.mod_eq_of_lt hlt).symm
  | true =>
    have hge : 2 ^ 63 ≤ x.bits.toNat := of_decide_eq_true hneg
    have hlt : x.bits.toNat < 2 ^ 64 := x.bits.toNat_lt
    have h := x.toNat_neg
    rw [hneg, if_pos rfl] at h
    rw [withSign, if_pos rfl, h]
    omega

/-! ### Parts -/

theorem canonical_parts {x : Binary64} (finite : x.isFinite = true) :
    Canonical x.significand x.scale := by
  have hfield : x.exponentField < 2047 := by
    have : x.exponentField ≠ 2047 := by simpa [isFinite] using finite
    have : x.exponentField < 2 ^ 11 := Nat.mod_lt _ (by decide)
    omega
  have hfraction : x.fraction < 2 ^ 52 := Nat.mod_lt _ (by decide)
  rw [significand, scale]
  split
  · exact ⟨by omega, by omega, by omega, .inl (by omega)⟩
  · exact ⟨by omega, by omega, by omega, .inr (by omega)⟩

theorem Canonical.toNat_ofParts {m : ℕ} {q : ℤ} (canonical : Canonical m q) :
    (ofParts m q).bits.toNat = (q + 1074).toNat * 2 ^ 52 + m := by
  obtain ⟨hm, hge, hle, -⟩ := canonical
  have hinfinity : infinity.bits.toNat = 2047 * 2 ^ 52 := rfl
  rw [ofParts, hinfinity, UInt64.toNat_ofNat']
  omega

/-- A finite number without its sign is given by its parts. -/
theorem ofParts_parts {x : Binary64} (finite : x.isFinite = true) :
    ofParts x.significand x.scale = x.abs := by
  refine ext_toNat ?_
  rw [(canonical_parts finite).toNat_ofParts, toNat_abs]
  have hbits : x.bits.toNat % 2 ^ 63 = x.exponentField * 2 ^ 52 + x.fraction := by
    rw [exponentField, fraction]
    omega
  rw [hbits, significand, scale]
  split <;> omega

/-- Parts within the bounds of the format are those of a finite number without a sign. -/
theorem Canonical.parts_ofParts {m : ℕ} {q : ℤ} (canonical : Canonical m q) :
    (ofParts m q).significand = m ∧ (ofParts m q).scale = q ∧ (ofParts m q).isFinite = true ∧
      (ofParts m q).isNegative = false := by
  have hbits := canonical.toNat_ofParts
  obtain ⟨hm, hge, hle, hleading⟩ := canonical
  have hfraction : (ofParts m q).fraction = m % 2 ^ 52 := by
    rw [fraction, hbits, Nat.mul_add_mod_self_right]
  have hfield : (ofParts m q).exponentField = (q + 1074).toNat + m / 2 ^ 52 := by
    rw [exponentField, hbits]
    omega
  have hfinite : (ofParts m q).isFinite = true := by
    simp only [isFinite, hfield, ne_eq, decide_eq_true_eq]
    omega
  have hsign : (ofParts m q).isNegative = false := by
    rw [isNegative, hbits]
    exact decide_eq_false (by omega)
  rw [significand, scale, hfield, hfraction]
  refine ⟨?_, by omega, hfinite, hsign⟩
  split <;> omega

/-- The significand of a number is less than its scale has room for. -/
theorem magnitude_lt {x : Binary64} (finite : x.isFinite = true) :
    x.magnitude < 2 ^ 53 * 2 ^ x.scale := by
  have hsignificand : (x.significand : ℚ) < 2 ^ 53 := by
    exact_mod_cast (canonical_parts finite).significand_lt
  exact mul_lt_mul_of_pos_right hsignificand (two_zpow_pos x.scale)

theorem Canonical.magnitude_ofParts {m : ℕ} {q : ℤ} (canonical : Canonical m q) :
    (ofParts m q).magnitude = m * 2 ^ q := by
  obtain ⟨hm, hq, -⟩ := canonical.parts_ofParts
  rw [magnitude, hm, hq]

/-- Rounding up to a power of two gives the first number with the next scale. -/
theorem ofParts_carry {q : ℤ} (hq : -1074 ≤ q) : ofParts (2 ^ 53) q = ofParts (2 ^ 52) (q + 1) := by
  have : (q + 1074).toNat * 2 ^ 52 + 2 ^ 53 = (q + 1 + 1074).toNat * 2 ^ 52 + 2 ^ 52 := by omega
  rw [ofParts, this, ofParts]

/-! ### Grids -/

/-- The scale of a positive number, from the size of its significand. -/
theorem gridOf_eq {r : ℚ} {q : ℤ} (hr : 0 < r) (hq : -1074 ≤ q)
    (hlow : q = -1074 ∨ 2 ^ 52 ≤ r * 2 ^ (-q)) (hhigh : r * 2 ^ (-q) < 2 ^ 53) : gridOf r = q := by
  rw [scaled_lt_two_pow_iff hr] at hhigh
  rw [two_pow_le_scaled_iff hr] at hlow
  rw [gridOf]
  omega

/-- On its grid a positive number has a significand of fifty-three bits, or the least scale. -/
theorem gridOf_spec {r : ℚ} (hr : 0 < r) :
    -1074 ≤ gridOf r ∧ r * 2 ^ (-gridOf r) < 2 ^ 53 ∧
      (gridOf r = -1074 ∨ 2 ^ 52 ≤ r * 2 ^ (-gridOf r)) := by
  rw [scaled_lt_two_pow_iff hr, two_pow_le_scaled_iff hr, gridOf]
  omega

/-! ### Rounding to a number -/

section Near

variable {m : ℕ} {q : ℤ} {r : ℚ}

theorem cast_lowerEnd (hm : 0 < m) :
    (lowerEnd m q : ℚ) = if m = 2 ^ 52 ∧ -1074 < q then 4 * (m : ℚ) - 1 else 4 * m - 2 := by
  rw [lowerEnd]
  split
  · rw [Nat.cast_sub (by omega)]
    norm_cast
  · rw [Nat.cast_sub (by omega)]
    norm_cast

theorem le_cast_lowerEnd (hm : 0 < m) : 4 * (m : ℚ) - 2 ≤ lowerEnd m q := by
  rw [cast_lowerEnd hm]
  split <;> linarith

theorem cast_upperEnd : (upperEnd m : ℚ) = 4 * m + 2 := by
  rw [upperEnd]
  norm_cast

theorem Near.le (near : Near m q r) :
    lowerEnd m q ≤ 4 * (r * 2 ^ (-q)) ∧ 4 * (r * 2 ^ (-q)) ≤ upperEnd m := by
  rw [Near] at near
  split at near
  · exact near
  · exact ⟨near.1.le, near.2.le⟩

/-- What lies near a number lies within half a unit of its last place. -/
theorem Near.bounds (near : Near m q r) (hm : 0 < m) :
    (m - 1 / 2) * 2 ^ q ≤ r ∧ r ≤ (m + 1 / 2) * 2 ^ q := by
  obtain ⟨hlow, hhigh⟩ := near.le
  have hlower := le_cast_lowerEnd (q := q) hm
  rw [cast_upperEnd] at hhigh
  exact ⟨le_mul_two_zpow_neg_iff.1 (by linarith), mul_two_zpow_neg_le_iff.1 (by linarith)⟩

/-- What lies near a number is nearest to its significand on its grid. -/
theorem Near.nearest (near : Near m q r) (hm : 0 < m) : Nearest (r * 2 ^ (-q)) m := by
  have hlower := le_cast_lowerEnd (q := q) hm
  have hupper := cast_upperEnd (m := m)
  refine ⟨?_, fun hodd => ?_⟩
  · obtain ⟨hlow, hhigh⟩ := near.le
    rw [abs_le]
    constructor <;> linarith
  · rw [Near, if_neg (by omega)] at near
    obtain ⟨hlow, hhigh⟩ := near
    rw [abs_lt]
    constructor <;> linarith

theorem Near.pos (near : Near m q r) (hm : 0 < m) : 0 < r := by
  have hlower := le_cast_lowerEnd (q := q) hm
  have hone : (1 : ℚ) ≤ m := by exact_mod_cast hm
  have hscaled : 0 < r * 2 ^ (-q) := by linarith [near.le.1]
  exact (mul_pos_iff_of_pos_right (two_zpow_pos (-q))).1 hscaled

/-- What lies near a number is rounded to it. Just below a power of two the grid is finer, and
rounding up leads back to the number. -/
theorem Near.round_eq (canonical : Canonical m q) (hm : 0 < m) (near : Near m q r) :
    round r = ofParts m q := by
  have hr := near.pos hm
  obtain ⟨hlow, hhigh⟩ := near.le
  have hupper : r * 2 ^ (-q) < 2 ^ 53 := by
    have hmax : (m : ℚ) + 1 ≤ 2 ^ 53 := by exact_mod_cast canonical.significand_lt
    rw [cast_upperEnd] at hhigh
    linarith
  by_cases hleading : q = -1074 ∨ 2 ^ 52 ≤ r * 2 ^ (-q)
  · have hgrid := gridOf_eq hr canonical.scale_ge hleading hupper
    have hround := round_eq_ofParts (m := m) hr
    rw [hgrid] at hround
    exact hround (near.nearest hm)
  · obtain ⟨hleast, hbelow⟩ := not_or.1 hleading
    have hbelow := not_le.1 hbelow
    have hq := canonical.scale_ge
    -- only the interval of a power of two reaches below it
    have hpower : m = 2 ^ 52 := by
      refine le_antisymm (Nat.le_of_lt_succ ?_) (canonical.leading.resolve_left hleast)
      have hlower := le_cast_lowerEnd (q := q) hm
      have : (m : ℚ) < 2 ^ 52 + 1 := by linarith
      exact_mod_cast this
    rw [cast_lowerEnd hm, if_pos ⟨hpower, by omega⟩, hpower] at hlow
    push_cast at hlow
    have hdouble : r * 2 ^ (-(q - 1)) = 2 * (r * 2 ^ (-q)) := by
      rw [neg_sub, sub_eq_add_neg, zpow_add₀ two_ne_zero, zpow_one, mul_left_comm]
    have hgrid : gridOf r = q - 1 := by
      refine gridOf_eq hr (by omega) (.inr ?_) ?_ <;> rw [hdouble] <;> linarith
    have hnearest : Nearest (r * 2 ^ (-gridOf r)) (2 ^ 53) := by
      rw [hgrid, hdouble]
      refine ⟨?_, fun hodd => absurd hodd (by decide)⟩
      push_cast
      rw [abs_le]
      constructor <;> linarith
    rw [round_eq_ofParts hr hnearest, hgrid, ofParts_carry (by omega), sub_add_cancel, hpower]

theorem near_self (hm : 0 < m) : Near m q (m * 2 ^ q) := by
  have hlower : (lowerEnd m q : ℚ) < 4 * m := by
    rw [cast_lowerEnd hm]
    split <;> linarith
  have hupper : 4 * (m : ℚ) < upperEnd m := by
    rw [cast_upperEnd]
    linarith
  rw [Near, mul_two_zpow_cancel]
  split
  · exact ⟨hlower.le, hupper.le⟩
  · exact ⟨hlower, hupper⟩

end Near

theorem round_zero : round 0 = ⟨0⟩ := rfl

/-- A number of the format is rounded to itself. -/
theorem round_magnitude {x : Binary64} (finite : x.isFinite = true) :
    round x.magnitude = x.abs := by
  have canonical := canonical_parts finite
  rw [← ofParts_parts finite, magnitude]
  rcases Nat.eq_zero_or_pos x.significand with hzero | hpos
  · have hscale : x.scale = -1074 := canonical.leading.resolve_right (by omega)
    rw [hzero, hscale, Nat.cast_zero, zero_mul]
    rfl
  · exact (near_self hpos).round_eq canonical hpos

/-- A positive number that is not too large is rounded to a finite number, the one with the value of
the nearest integer on its grid. -/
theorem exists_round {r : ℚ} (hr : 0 < r) (hlt : r < (2 ^ 53 - 1 / 2) * 2 ^ (971 : ℤ)) :
    ∃ n m q, Nearest (r * 2 ^ (-gridOf r)) n ∧ Canonical m q ∧ round r = ofParts m q ∧
      (m : ℚ) * 2 ^ q = n * 2 ^ gridOf r := by
  obtain ⟨hge, hupper, hlower⟩ := gridOf_spec hr
  obtain ⟨n, nearest⟩ := exists_nearest (mul_pos hr (two_zpow_pos (-gridOf r))).le
  have hround := round_eq_ofParts hr nearest
  obtain ⟨hlow, hhigh⟩ := abs_le.1 nearest.close
  -- the grid is no coarser than that of the greatest numbers
  have hle : gridOf r ≤ 971 := by
    have hlog : Int.log 2 r < 53 + 971 := by
      rw [log_lt_iff hr, zpow_add₀ two_ne_zero]
      exact hlt.trans (mul_lt_mul_of_pos_right (by norm_num) (two_zpow_pos 971))
    rw [gridOf]
    omega
  have hleading : gridOf r = -1074 ∨ 2 ^ 52 ≤ n := by
    refine hlower.imp_right fun h => ?_
    have : (2 : ℚ) ^ 52 < n + 1 := by linarith
    exact Nat.le_of_lt_succ (by exact_mod_cast this)
  have hsignificand : n ≤ 2 ^ 53 := by
    have : (n : ℚ) < 2 ^ 53 + 1 := by linarith
    exact Nat.le_of_lt_succ (by exact_mod_cast this)
  rcases hsignificand.lt_or_eq with hn | hn
  · exact ⟨n, n, gridOf r, nearest, ⟨hn, hge, hle, hleading⟩, hround, rfl⟩
  -- carried into the next power of two, of which there is one unless it was the last
  · have hroom : gridOf r ≠ 971 := by
      intro hlast
      have hbelow : r * 2 ^ (-gridOf r) < 2 ^ 53 - 1 / 2 := by
        rw [mul_two_zpow_neg_lt_iff, hlast]
        exact hlt
      rw [hn] at hlow
      push_cast at hlow
      linarith
    refine ⟨n, 2 ^ 52, gridOf r + 1, nearest, ⟨by decide, by omega, by omega, .inr le_rfl⟩, ?_, ?_⟩
    · rw [hround, hn, ofParts_carry hge]
    · rw [zpow_add₀ two_ne_zero, zpow_one, hn]
      push_cast
      ring

end Isolation.Binary64
