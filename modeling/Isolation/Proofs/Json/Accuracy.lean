import Isolation.Proofs.Json.Estimate

/-!
# How accurate reading is

Each rounding of an operand moves the result by a share of it that is half of its last bit. Added
up, what is read from the text of a finite number is finite as well and less than six units of the
last place away from it; and it is the number itself where digits and power are numbers of the
format.

## Main results

* `Binary64.abs_scaled_sub_le` — the roundings of the operands
* `Binary64.isFinite_estimate`, `Binary64.abs_estimate_sub_lt` — all roundings
* `Binary64.estimate_of_exact` — operands that are not rounded
-/

namespace Isolation.Binary64

/-! ### Operands -/

section Operands

variable {a b c d : ℚ}

/-- A product of rounded factors. -/
theorem abs_mul_sub_le (hc : 0 ≤ c) (hd : 0 < d)
    (ha : (1 - 1 / 2 ^ 53) * c ≤ a ∧ a ≤ (1 + 1 / 2 ^ 53) * c)
    (hb : (1 - 1 / 2 ^ 53) * d ≤ b ∧ b ≤ (1 + 1 / 2 ^ 53) * d) :
    |a * b - c * d| ≤ (2 / 2 ^ 53 + 4 / 2 ^ 106) * (c * d) := by
  have hcd : 0 ≤ c * d := mul_nonneg hc hd.le
  have hc' : 0 ≤ (1 - 1 / 2 ^ 53) * c := mul_nonneg (by norm_num) hc
  have hd' : 0 ≤ (1 - 1 / 2 ^ 53) * d := mul_nonneg (by norm_num) hd.le
  have hupper : a * b ≤ (1 + 1 / 2 ^ 53) * c * ((1 + 1 / 2 ^ 53) * d) :=
    mul_le_mul ha.2 hb.2 (hd'.trans hb.1) ((hc'.trans ha.1).trans ha.2)
  have hlower : (1 - 1 / 2 ^ 53) * c * ((1 - 1 / 2 ^ 53) * d) ≤ a * b :=
    mul_le_mul ha.1 hb.1 hd' (hc'.trans ha.1)
  rw [mul_mul_mul_comm] at hupper hlower
  rw [abs_le]
  constructor <;> linarith

/-- A quotient of rounded operands. -/
theorem abs_div_sub_le (hc : 0 ≤ c) (hd : 0 < d)
    (ha : (1 - 1 / 2 ^ 53) * c ≤ a ∧ a ≤ (1 + 1 / 2 ^ 53) * c)
    (hb : (1 - 1 / 2 ^ 53) * d ≤ b ∧ b ≤ (1 + 1 / 2 ^ 53) * d) :
    |a / b - c / d| ≤ (2 / 2 ^ 53 + 4 / 2 ^ 106) * (c / d) := by
  have hcd : 0 ≤ c / d := div_nonneg hc hd.le
  have hc' : 0 ≤ (1 - 1 / 2 ^ 53) * c := mul_nonneg (by norm_num) hc
  have hd' : 0 < (1 - 1 / 2 ^ 53) * d := mul_pos (by norm_num) hd
  have hupper : a / b ≤ (1 + 1 / 2 ^ 53) * c / ((1 - 1 / 2 ^ 53) * d) :=
    div_le_div₀ ((hc'.trans ha.1).trans ha.2) ha.2 hd' hb.1
  have hlower : (1 - 1 / 2 ^ 53) * c / ((1 + 1 / 2 ^ 53) * d) ≤ a / b :=
    div_le_div₀ (hc'.trans ha.1) ha.1 (hd'.trans_le hb.1) hb.2
  rw [mul_div_mul_comm] at hupper hlower
  have hfactor : ((1 + 1 / 2 ^ 53) / (1 - 1 / 2 ^ 53) : ℚ) ≤ 1 + (2 / 2 ^ 53 + 4 / 2 ^ 106) := by
    norm_num
  have hfactor' : 1 - (2 / 2 ^ 53 + 4 / 2 ^ 106) ≤ ((1 - 1 / 2 ^ 53) / (1 + 1 / 2 ^ 53) : ℚ) := by
    norm_num
  have hupper' := mul_le_mul_of_nonneg_right hfactor hcd
  have hlower' := mul_le_mul_of_nonneg_right hfactor' hcd
  rw [abs_le]
  constructor <;> linarith

/-- A quotient of which the first operand was rounded more often. -/
theorem abs_div_sub_le_add {t : ℚ} (hc : 0 ≤ c) (hd : 10 ≤ d) (ht : 0 ≤ t)
    (ha : |a - c| ≤ (3 / 2 ^ 53 + 8 / 2 ^ 106) * c + t)
    (hb : (1 - 1 / 2 ^ 53) * d ≤ b ∧ b ≤ (1 + 1 / 2 ^ 53) * d) :
    |a / b - c / d| ≤ (4 / 2 ^ 53 + 16 / 2 ^ 106) * (c / d) + t / 8 := by
  have hdpos : 0 < d := by linarith
  have hb8 : 8 ≤ b := by linarith [hb.1]
  have hbpos : 0 < b := by linarith
  have hcd : 0 ≤ c / d := div_nonneg hc hdpos.le
  obtain ⟨hlow, hhigh⟩ := abs_le.1 ha
  have htb : t / b ≤ t / 8 := div_le_div_of_nonneg_left ht (by norm_num) hb8
  have hquotient : c / b ≤ c / ((1 - 1 / 2 ^ 53) * d) :=
    div_le_div_of_nonneg_left hc (mul_pos (by norm_num) hdpos) hb.1
  have hquotient' : c / ((1 + 1 / 2 ^ 53) * d) ≤ c / b :=
    div_le_div_of_nonneg_left hc hbpos hb.2
  have hsplit (k : ℚ) : c / (k * d) = 1 / k * (c / d) := by
    rw [div_mul_div_comm, one_mul]
  rw [hsplit] at hquotient hquotient'
  have hupper : a / b ≤ (1 + (3 / 2 ^ 53 + 8 / 2 ^ 106)) * (c / b) + t / b := by
    rw [mul_div_assoc', ← add_div]
    exact div_le_div_of_nonneg_right (by linarith) hbpos.le
  have hlower : (1 - (3 / 2 ^ 53 + 8 / 2 ^ 106)) * (c / b) - t / b ≤ a / b := by
    rw [mul_div_assoc', ← sub_div]
    exact div_le_div_of_nonneg_right (by linarith) hbpos.le
  have hupper' := mul_le_mul_of_nonneg_left hquotient
    (by norm_num : (0 : ℚ) ≤ 1 + (3 / 2 ^ 53 + 8 / 2 ^ 106))
  have hlower' := mul_le_mul_of_nonneg_left hquotient'
    (by norm_num : (0 : ℚ) ≤ 1 - (3 / 2 ^ 53 + 8 / 2 ^ 106))
  have hfactor : (1 + (3 / 2 ^ 53 + 8 / 2 ^ 106)) * (1 / (1 - 1 / 2 ^ 53) : ℚ) ≤
      1 + (4 / 2 ^ 53 + 16 / 2 ^ 106) := by norm_num
  have hfactor' : 1 - (4 / 2 ^ 53 + 16 / 2 ^ 106) ≤
      (1 - (3 / 2 ^ 53 + 8 / 2 ^ 106)) * (1 / (1 + 1 / 2 ^ 53) : ℚ) := by norm_num
  have hupper'' := mul_le_mul_of_nonneg_right hfactor hcd
  have hlower'' := mul_le_mul_of_nonneg_right hfactor' hcd
  rw [mul_assoc] at hupper'' hlower''
  rw [abs_le]
  constructor <;> linarith

end Operands

/-! ### Decimals -/

variable {x : Decimal}

theorem tenTo_bounds {n : ℕ} (h : n ≤ 308) :
    (1 - 1 / 2 ^ 53) * (10 : ℚ) ^ (n : ℤ) ≤ tenTo n ∧
      tenTo n ≤ (1 + 1 / 2 ^ 53) * 10 ^ (n : ℤ) := by
  have hcast : (10 : ℚ) ^ (n : ℤ) = (10 ^ n : ℕ) := by
    rw [zpow_natCast, Nat.cast_pow, Nat.cast_ofNat]
  rw [hcast]
  exact rounded_natCast_bounds (Nat.pow_pos (by decide)) (pow_lt_of_le h)

theorem digits_bounds {n : ℕ} (h : n ≤ 10 ^ 17) :
    (1 - 1 / 2 ^ 53) * (n : ℚ) ≤ rounded n ∧ rounded n ≤ (1 + 1 / 2 ^ 53) * n := by
  rcases Nat.eq_zero_or_pos n with rfl | hpos
  · rw [Nat.cast_zero, rounded_zero, mul_zero, mul_zero]
    exact ⟨le_rfl, le_rfl⟩
  · exact rounded_natCast_bounds hpos (lt_of_digits h)

/-- Within the range of the powers of ten, two roundings come together. -/
theorem abs_scaled_sub_le_near (hdigits : x.digits ≤ 10 ^ 17) (hlow : -308 ≤ x.exponent)
    (hhigh : x.exponent ≤ 308) :
    |scaled x - x.value| ≤ (2 / 2 ^ 53 + 4 / 2 ^ 106) * x.value := by
  have hdigit : (0 : ℚ) ≤ x.digits := Nat.cast_nonneg _
  rw [scaled, Decimal.value]
  split
  · next hsign =>
    have hpower : x.exponent = (x.exponent.toNat : ℤ) := by omega
    have := abs_mul_sub_le hdigit (ten_zpow_pos (x.exponent.toNat : ℤ)) (digits_bounds hdigits)
      (tenTo_bounds (n := x.exponent.toNat) (by omega))
    rwa [← hpower] at this
  · next hsign =>
    have hpower : -x.exponent = ((-x.exponent).toNat : ℤ) := by omega
    have hquotient := abs_div_sub_le hdigit (ten_zpow_pos ((-x.exponent).toNat : ℤ))
      (digits_bounds hdigits) (tenTo_bounds (n := (-x.exponent).toNat) (by omega))
    rw [← hpower, zpow_neg, div_inv_eq_mul] at hquotient
    exact hquotient

/-- Beyond it there are four of them, and one may fall on the least numbers. -/
theorem abs_scaled_sub_le_far (hpos : 0 < x.digits) (hdigits : x.digits ≤ 10 ^ 17)
    (hlow : -340 ≤ x.exponent) (hhigh : x.exponent < -308) :
    |scaled x - x.value| ≤ (4 / 2 ^ 53 + 16 / 2 ^ 106) * x.value + 2 ^ (-1075 : ℤ) / 8 := by
  have hdigit : (1 : ℚ) ≤ x.digits := by exact_mod_cast hpos
  obtain ⟨k, hk⟩ : ∃ k : ℕ, -x.exponent - 308 = k := ⟨_, (Int.toNat_of_nonneg (by omega)).symm⟩
  have hvalue : x.value = x.digits / 10 ^ ((308 : ℕ) : ℤ) / 10 ^ (k : ℤ) := by
    have hexponent : x.exponent = -((308 : ℕ) + k : ℤ) := by omega
    rw [Decimal.value, hexponent, zpow_neg, zpow_add₀ (by norm_num), mul_inv, div_div,
      div_eq_mul_inv, mul_inv]
  have hscaled : scaled x = rounded (rounded x.digits / tenTo 308) / tenTo k := by
    rw [scaled, if_neg (by omega), if_neg (by omega), hk, Int.toNat_natCast]
  have hone : (1 : ℚ) ≤ 10 ^ ((308 : ℕ) : ℤ) := one_le_zpow₀ (by norm_num) (by decide)
  have hmore : (10 : ℚ) ≤ 10 ^ (k : ℤ) := by
    have := zpow_le_zpow_right₀ (by norm_num : (1 : ℚ) ≤ 10) (by omega : (1 : ℤ) ≤ k)
    rwa [zpow_one] at this
  have hfirst := abs_div_sub_le (zero_le_one.trans hdigit) (zero_lt_one.trans_le hone)
    (digits_bounds hdigits) (tenTo_bounds (n := 308) le_rfl)
  rw [hvalue, hscaled]
  generalize (10 : ℚ) ^ ((308 : ℕ) : ℤ) = power at hone hfirst
  generalize rounded x.digits / tenTo 308 = first at hfirst
  have hquotient : 0 < (x.digits : ℚ) / power := div_pos (by linarith) (by linarith)
  have hless : (x.digits : ℚ) / power ≤ x.digits := div_le_self (by linarith) hone
  obtain ⟨hfirstLow, hfirstHigh⟩ := abs_le.1 hfirst
  have hlimit : first < limit := by
    have hword : ((2 * 10 ^ 17 : ℕ) : ℚ) < limit := natCast_lt_limit (by decide +kernel)
    have hall : (x.digits : ℚ) ≤ 10 ^ 17 := by exact_mod_cast hdigits
    push_cast at hword
    linarith
  -- the first quotient is rounded too
  have hround := abs_le.1 (abs_rounded_sub_le (by linarith) hlimit)
  refine abs_div_sub_le_add hquotient.le hmore (two_zpow_pos _).le ?_ (tenTo_bounds (by omega))
  rw [abs_le]
  constructor <;> linarith [hround.1, hround.2]

/-- The roundings of the operands. -/
theorem abs_scaled_sub_le (hpos : 0 < x.digits) (hdigits : x.digits ≤ 10 ^ 17)
    (hlow : -340 ≤ x.exponent) (hhigh : x.exponent ≤ 308) :
    |scaled x - x.value| ≤ (4 / 2 ^ 53 + 16 / 2 ^ 106) * x.value + 2 ^ (-1075 : ℤ) / 8 := by
  rcases lt_or_ge x.exponent (-308) with hfar | hnear
  · exact abs_scaled_sub_le_far hpos hdigits hlow hfar
  · have hclose := abs_scaled_sub_le_near hdigits hnear hhigh
    have hvalue : 0 ≤ x.value := mul_nonneg (Nat.cast_nonneg _) (ten_zpow_pos _).le
    have hleast := two_zpow_pos (-1075)
    linarith

/-! ### Operands that are not rounded -/

theorem rounded_natCast {n : ℕ} (h : n < 2 ^ 53) : rounded n = n := by
  have := rounded_mul_two_pow (b := 0) h (by decide)
  rwa [Nat.pow_zero, Nat.mul_one] at this

/-- Up to the power with the exponent 22, powers of ten are numbers of the format. -/
theorem tenTo_eq {n : ℕ} (h : n ≤ 22) : tenTo n = 10 ^ n := by
  have hfive : 5 ^ n < 2 ^ 53 := (Nat.pow_le_pow_right (by decide) h).trans_lt (by decide)
  have hten : 10 ^ n = 5 ^ n * 2 ^ n := by rw [← Nat.mul_pow]
  rw [tenTo, hten, rounded_mul_two_pow hfive (by omega), ← hten, Nat.cast_pow, Nat.cast_ofNat]

/-- Where digits and power are numbers of the format, reading finds the number nearest to what is
written. -/
theorem estimate_of_exact (hdigits : x.digits < 2 ^ 53) (hlow : -22 ≤ x.exponent)
    (hhigh : x.exponent ≤ 22) : estimate x = round x.value := by
  rw [estimate, scaled, Decimal.value, rounded_natCast hdigits]
  split
  · next hsign =>
    rw [tenTo_eq (by omega), ← zpow_natCast, Int.toNat_of_nonneg hsign]
  · next hsign =>
    rw [if_pos (by omega), tenTo_eq (by omega), ← zpow_natCast, Int.toNat_of_nonneg (by omega),
      zpow_neg, div_inv_eq_mul]

/-! ### Texts of numbers -/

section Written

variable {x : Binary64} (tie : Tie)

/-- The digits that are read from the text of a number that is not zero are not zero. -/
theorem digits_asRead_pos (finite : x.isFinite = true) (hm : 0 < x.significand) :
    0 < (x.decimal tie).asRead.digits := by
  have hvalue := (near_decimal tie finite hm).pos hm
  rw [← Decimal.value_asRead, Decimal.value] at hvalue
  exact_mod_cast (mul_pos_iff_of_pos_right (ten_zpow_pos _)).1 hvalue

/-- The text of a number and the roundings of the operands move less than five units of the last
place. -/
theorem abs_scaled_sub_magnitude_le (finite : x.isFinite = true) (hm : 0 < x.significand) :
    |scaled (x.decimal tie).asRead - x.magnitude| ≤ 19 / 4 * 2 ^ x.scale ∧
      0 < scaled (x.decimal tie).asRead := by
  have canonical := canonical_parts finite
  obtain ⟨hdigits, hlow, hhigh⟩ := decimal_bounds tie finite
  obtain ⟨hdigits, hlow, hhigh⟩ := Json.Number.asRead_bounds hdigits hlow hhigh
  have hclose := abs_scaled_sub_le (digits_asRead_pos tie finite hm) hdigits hlow hhigh
  rw [Decimal.value_asRead] at hclose
  have hunit := two_zpow_pos x.scale
  -- the text lies within half a unit
  have hmagnitude : x.magnitude = x.significand * 2 ^ x.scale := rfl
  obtain ⟨hlower, hupper⟩ := (near_decimal tie finite hm).bounds hm
  have hgreatest : (x.decimal tie).value ≤ 2 ^ 53 * 2 ^ x.scale := by
    have : (x.significand : ℚ) + 1 ≤ 2 ^ 53 := by exact_mod_cast canonical.significand_lt
    exact hupper.trans (mul_le_mul_of_nonneg_right (by linarith) hunit.le)
  have hone : (1 : ℚ) ≤ x.significand := by exact_mod_cast hm
  have hleast : 2 * (2 : ℚ) ^ (-1075 : ℤ) ≤ 2 ^ x.scale := by
    rw [← zpow_one_add₀ two_ne_zero]
    exact zpow_le_zpow_right₀ one_le_two canonical.scale_ge
  have hpositive : 1 / 2 * 2 ^ x.scale ≤ (x.decimal tie).value :=
    (mul_le_mul_of_nonneg_right (by linarith) hunit.le).trans hlower
  obtain ⟨hbelow, habove⟩ := abs_le.1 hclose
  refine ⟨?_, by linarith⟩
  rw [abs_le, hmagnitude]
  constructor <;> linarith

/-- The greatest numbers are read below the limit. -/
theorem scaled_lt_limit_of_greatest (m : ℕ) (hlow : 2 ^ 53 - 5 ≤ m) (hhigh : m < 2 ^ 53) :
    scaled (shortest .toEven m 971).asRead < limit := by
  have hall : ∀ k < 5, scaled (shortest .toEven (2 ^ 53 - 5 + k) 971).asRead < limit := by
    decide +kernel
  have := hall (m - (2 ^ 53 - 5)) (by omega)
  rwa [Nat.add_sub_cancel' hlow] at this

theorem scaled_lt_limit (finite : x.isFinite = true) (hm : 0 < x.significand) :
    scaled (x.decimal .toEven).asRead < limit := by
  have canonical := canonical_parts finite
  have hclose := (abs_le.1 (abs_scaled_sub_magnitude_le .toEven finite hm).1).2
  have hunit := two_zpow_pos x.scale
  have hmagnitude : x.magnitude = x.significand * 2 ^ x.scale := rfl
  by_cases hgreatest : x.scale = 971 ∧ 2 ^ 53 - 5 ≤ x.significand
  · rw [decimal, if_neg hm.ne', hgreatest.1]
    exact scaled_lt_limit_of_greatest _ hgreatest.2 canonical.significand_lt
  · have hle := canonical.scale_le
    have hlast := two_zpow_pos 971
    rw [limit]
    rcases hle.lt_or_eq with hlt | heq
    -- below the last power of two there is room in plenty
    · have hdouble : (2 : ℚ) ^ x.scale * 2 ≤ 2 ^ (971 : ℤ) := by
        rw [← zpow_add_one₀ two_ne_zero]
        exact zpow_le_zpow_right₀ one_le_two (by omega)
      have hmagnitude := magnitude_lt finite
      generalize (2 : ℚ) ^ (971 : ℤ) = last at hlast hdouble ⊢
      linarith
    · have hbelow : x.significand + 6 ≤ 2 ^ 53 := by omega
      have hcast : (x.significand : ℚ) + 6 ≤ 2 ^ 53 := by exact_mod_cast hbelow
      have hsignificand : ((x.significand : ℚ) + 6) * 2 ^ x.scale ≤ 2 ^ 53 * 2 ^ x.scale :=
        mul_le_mul_of_nonneg_right hcast hunit.le
      rw [heq] at hclose hmagnitude hsignificand
      generalize (2 : ℚ) ^ (971 : ℤ) = last at hlast hclose hmagnitude hsignificand ⊢
      linarith

/-- What is read from the text of a finite number is finite. -/
theorem isFinite_estimate (finite : x.isFinite = true) :
    (estimate (x.decimal .toEven).asRead).isFinite = true := by
  rcases Nat.eq_zero_or_pos x.significand with hzero | hpos
  · rw [decimal, if_pos hzero]
    decide +kernel
  · exact isFinite_round (abs_scaled_sub_magnitude_le .toEven finite hpos).2.le
      (scaled_lt_limit finite hpos)

/-- All roundings together move less than six units of the last place. -/
theorem abs_estimate_sub_lt (finite : x.isFinite = true) :
    |(estimate (x.decimal .toEven).asRead).magnitude - x.magnitude| < 6 * 2 ^ x.scale := by
  have hunit := two_zpow_pos x.scale
  rcases Nat.eq_zero_or_pos x.significand with hzero | hpos
  · have hestimate : (estimate (⟨0, 0⟩ : Decimal).asRead).magnitude = 0 := by decide +kernel
    have hmagnitude : x.magnitude = 0 := by rw [magnitude, hzero, Nat.cast_zero, zero_mul]
    rw [decimal, if_pos hzero, hestimate, hmagnitude, sub_zero, abs_zero]
    linarith
  · have canonical := canonical_parts finite
    obtain ⟨hclose, hscaled⟩ := abs_scaled_sub_magnitude_le .toEven finite hpos
    have hround := abs_rounded_sub_le_grid hscaled (scaled_lt_limit finite hpos)
    obtain ⟨hbelow, habove⟩ := abs_le.1 hclose
    -- the result may belong to the next power of two, but to none beyond it
    have hgrid : gridOf (scaled (x.decimal .toEven).asRead) ≤ x.scale + 1 := by
      have hlog : Int.log 2 (scaled (x.decimal .toEven).asRead) < 54 + x.scale := by
        rw [log_lt_iff hscaled, zpow_add₀ two_ne_zero]
        have hmagnitude := magnitude_lt finite
        have hpower : (2 : ℚ) ^ (54 : ℤ) = 2 * 2 ^ 53 := by norm_num
        rw [hpower]
        linarith
      have hge := canonical.scale_ge
      rw [gridOf]
      omega
    have hstep : (2 : ℚ) ^ gridOf (scaled (x.decimal .toEven).asRead) ≤ 2 ^ x.scale * 2 := by
      rw [← zpow_add_one₀ two_ne_zero]
      exact zpow_le_zpow_right₀ one_le_two hgrid
    obtain ⟨hbelow', habove'⟩ := abs_le.1 hround
    rw [abs_lt]
    have hvalue : (estimate (x.decimal .toEven).asRead).magnitude =
      rounded (scaled (x.decimal .toEven).asRead) := rfl
    rw [hvalue]
    constructor <;> linarith

end Written

end Isolation.Binary64
