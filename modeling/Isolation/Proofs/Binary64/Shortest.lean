import Isolation.Binary64.Text
import Isolation.Proofs.Binary64.Format

/-!
# The shortest decimal is faithful

A decimal reads back as a number if its value lies near the number. Seventeen digits are always
enough: on the grid of the seventeenth digit the neighbours of a number lie closer together than the
ends of its interval, so that one of them is inside. Hence the decimal that a finite number is
written as is rounded to the number.

## Main definitions

* `Decimal.value` — the value of a decimal

## Main results

* `Binary64.readsBack_iff_near` — what reads back as a number
* `Binary64.leadingExponent_spec` — the first digit of a number
* `Binary64.exists_shortest` — a shortest decimal is always found
* `Binary64.round_decimal` — the decimal of a finite number is rounded to it
-/

namespace Isolation

namespace Decimal

/-- The value of a decimal. -/
def value (x : Decimal) : ℚ := x.digits * 10 ^ x.exponent

theorem trimZeros_exponent (fuel : Nat) {x : Decimal} (h : x.digits = 0 → x.exponent = 0) :
    (x.trimZeros fuel).digits = 0 → (x.trimZeros fuel).exponent = 0 := by
  induction fuel generalizing x with
  | zero => exact h
  | succ fuel ih =>
    rw [trimZeros]
    split
    · next htrim =>
      refine ih fun hzero => ?_
      have : x.digits / 10 = 0 := hzero
      omega
    · exact h

/-- Trailing zeros are moved into the exponent without changing the value. -/
theorem trimZeros_spec (fuel : ℕ) (x : Decimal) :
    (x.trimZeros fuel).value = x.value ∧ (x.trimZeros fuel).digits ≤ x.digits ∧
      x.exponent ≤ (x.trimZeros fuel).exponent := by
  induction fuel generalizing x with
  | zero => exact ⟨rfl, le_rfl, le_rfl⟩
  | succ fuel ih =>
    rw [trimZeros]
    split
    · next htrim =>
      obtain ⟨hvalue, hdigits, hexponent⟩ := ih ⟨x.digits / 10, x.exponent + 1⟩
      refine ⟨hvalue.trans ?_, hdigits.trans (Nat.div_le_self _ _),
        (Int.le_add_one le_rfl).trans hexponent⟩
      have hten : ((x.digits / 10 : ℕ) : ℚ) * 10 = x.digits := by
        exact_mod_cast Nat.div_mul_cancel (Nat.dvd_of_mod_eq_zero htrim.2)
      rw [value, value, zpow_add₀ (by norm_num), zpow_one, ← hten]
      ring
    · exact ⟨rfl, le_rfl, le_rfl⟩

end Decimal

namespace Binary64

/-! ### Decimals near a number -/

theorem ten_zpow_pos (e : ℤ) : (0 : ℚ) < 10 ^ e := zpow_pos (by norm_num) e

theorem two_pow_le_ten_pow {j k : ℕ} (h : 2 ^ j ≤ 10 ^ k) : (2 : ℚ) ^ (j : ℤ) ≤ 10 ^ (k : ℤ) := by
  rw [zpow_natCast, zpow_natCast]
  exact_mod_cast h

theorem binaryWeight_pos (q e : ℤ) : 0 < binaryWeight q e :=
  Nat.mul_pos (Nat.pow_pos (by decide)) (Nat.two_pow_pos _)

theorem decimalWeight_pos (q e : ℤ) : 0 < decimalWeight q e :=
  Nat.mul_pos (Nat.pow_pos (by decide)) (Nat.two_pow_pos _)

/-- On the common scale, a step of the decimal grid in quarters of a step of the binary one. -/
theorem weight_ratio (q e : ℤ) :
    (decimalWeight q e : ℚ) / binaryWeight q e = 4 * (10 ^ e * 2 ^ (-q)) := by
  have hfour : (4 : ℚ) * 2 ^ (-q) = 2 ^ (2 - q) := by
    rw [sub_eq_add_neg, zpow_add₀ two_ne_zero]
    norm_num
  rw [mul_left_comm, hfour, zpow_eq_div (by norm_num) e, zpow_eq_div two_ne_zero (2 - q), neg_sub,
    div_mul_div_comm, decimalWeight, binaryWeight]
  push_cast
  rfl

/-- What reads back as a number is what lies near it. -/
theorem readsBack_iff_near {m : ℕ} {q : ℤ} {x : Decimal} :
    ReadsBack m q x ↔ Near m q x.value := by
  have hweight : (0 : ℚ) < binaryWeight q x.exponent := by exact_mod_cast binaryWeight_pos q _
  have hpoint : 4 * (x.value * 2 ^ (-q)) =
      (x.digits * decimalWeight q x.exponent : ℕ) / binaryWeight q x.exponent := by
    rw [Decimal.value, Nat.cast_mul, mul_div_assoc, weight_ratio]
    ring
  rw [ReadsBack, Near, hpoint]
  simp only [le_div_iff₀ hweight, div_le_iff₀ hweight, lt_div_iff₀ hweight, div_lt_iff₀ hweight]
  norm_cast

/-- What reads back as a positive number is not zero. -/
theorem ReadsBack.digits_ne_zero {m : ℕ} {q : ℤ} {x : Decimal} (hm : m ≠ 0)
    (h : ReadsBack m q x) : x.digits ≠ 0 := by
  intro hzero
  have hpos := (readsBack_iff_near.1 h).pos (Nat.pos_of_ne_zero hm)
  rw [Decimal.value, hzero, Nat.cast_zero, zero_mul] at hpos
  exact lt_irrefl 0 hpos

/-- If two points enclose a number more closely than the ends of its interval do, one of them lies
near it. -/
theorem near_of_enclosed {m : ℕ} {q : ℤ} {a b : ℚ} (hm : 0 < m) (hlow : a ≤ m * 2 ^ q)
    (hhigh : m * 2 ^ q ≤ b)
    (hclose : 4 * ((b - a) * 2 ^ (-q)) < (upperEnd m : ℚ) - lowerEnd m q) :
    Near m q a ∨ Near m q b := by
  have hpos := two_zpow_pos (-q)
  have hvalue := mul_two_zpow_cancel m q
  have hlow : a * 2 ^ (-q) ≤ m := hvalue ▸ mul_le_mul_of_nonneg_right hlow hpos.le
  have hhigh : m ≤ b * 2 ^ (-q) := hvalue ▸ mul_le_mul_of_nonneg_right hhigh hpos.le
  have hupper := cast_upperEnd (m := m)
  have hlower : (lowerEnd m q : ℚ) < 4 * m := by
    rw [cast_lowerEnd hm]
    split <;> linarith
  rw [sub_mul] at hclose
  rw [or_iff_not_imp_left]
  intro hnot
  -- the lower point is not above the lower end, so the upper one is below the upper end
  have hbelow : 4 * (a * 2 ^ (-q)) ≤ lowerEnd m q := by
    by_contra habove
    refine hnot ?_
    have habove := not_le.1 habove
    rw [Near]
    split
    · exact ⟨habove.le, by linarith⟩
    · exact ⟨habove, by linarith⟩
  have hinside : lowerEnd m q < 4 * (b * 2 ^ (-q)) ∧ 4 * (b * 2 ^ (-q)) < upperEnd m := by
    constructor <;> linarith
  rw [Near]
  split
  · exact ⟨hinside.1.le, hinside.2.le⟩
  · exact hinside

/-! ### The first digit -/

theorem pow_length_toDigits {n : ℕ} (hn : 0 < n) :
    10 ^ ((Nat.toDigits 10 n).length - 1) ≤ n ∧ n < 10 ^ (Nat.toDigits 10 n).length := by
  have hlength : 0 < (Nat.toDigits 10 n).length := Nat.length_toDigits_pos
  refine ⟨?_, (Nat.length_toDigits_le_iff (by decide) hlength).1 le_rfl⟩
  rcases Nat.eq_zero_or_pos ((Nat.toDigits 10 n).length - 1) with hone | hmore
  · rw [hone]
    exact hn
  · refine Nat.le_of_not_lt fun hlt => ?_
    have := (Nat.length_toDigits_le_iff (by decide) hmore).2 hlt
    omega

/-- The digits of a number before and behind the point are counted by shifting the point. -/
theorem length_toDigits_spec {m shift : ℕ} {q : ℤ} (hm : 0 < m)
    (hshift : 2 ^ (-q).toNat ≤ 10 ^ shift) :
    let n := m * 2 ^ q.toNat * 10 ^ shift / 2 ^ (-q).toNat
    let first : ℤ := (Nat.toDigits 10 n).length - (shift + 1 : ℕ)
    (10 : ℚ) ^ first ≤ m * 2 ^ q ∧ m * (2 : ℚ) ^ q < 10 ^ (first + 1) := by
  intro n first
  have hten : (10 : ℚ) ≠ 0 := by norm_num
  have hden : 0 < 2 ^ (-q).toNat := Nat.two_pow_pos _
  have hn : 0 < n := by
    refine Nat.div_pos (hshift.trans ?_) hden
    exact Nat.le_mul_of_pos_left _ (Nat.mul_pos hm (Nat.two_pow_pos _))
  have hlength : 0 < (Nat.toDigits 10 n).length := Nat.length_toDigits_pos
  obtain ⟨hlow, hhigh⟩ := pow_length_toDigits hn
  have hscaled : (m : ℚ) * 2 ^ q * 10 ^ (shift : ℤ) =
      (m * 2 ^ q.toNat * 10 ^ shift : ℕ) / (2 ^ (-q).toNat : ℕ) := by
    rw [zpow_eq_div two_ne_zero, mul_div_assoc', div_mul_eq_mul_div, zpow_natCast]
    push_cast
    rfl
  have hshiftPos := ten_zpow_pos shift
  constructor
  · have hfloor : (n : ℚ) ≤ m * 2 ^ q * 10 ^ (shift : ℤ) := by
      rw [hscaled, le_div_iff₀ (by exact_mod_cast hden)]
      exact_mod_cast Nat.div_mul_le_self _ _
    have hpower : (10 : ℚ) ^ first * 10 ^ (shift : ℤ) ≤ n := by
      have hexponent : first + shift = ((Nat.toDigits 10 n).length - 1 : ℕ) := by
        simp only [first]
        omega
      rw [← zpow_add₀ hten, hexponent, zpow_natCast]
      exact_mod_cast hlow
    exact le_of_mul_le_mul_right (hpower.trans hfloor) hshiftPos
  · have hfloor : (m : ℚ) * 2 ^ q * 10 ^ (shift : ℤ) < (n + 1 : ℕ) := by
      rw [hscaled, div_lt_iff₀ (by exact_mod_cast hden)]
      exact_mod_cast Nat.lt_mul_of_div_lt (Nat.lt_succ_self n) hden
    have hpower : ((n + 1 : ℕ) : ℚ) ≤ 10 ^ (first + 1) * 10 ^ (shift : ℤ) := by
      have hexponent : first + 1 + shift = (Nat.toDigits 10 n).length := by
        simp only [first]
        omega
      rw [← zpow_add₀ hten, hexponent, zpow_natCast]
      exact_mod_cast hhigh
    exact lt_of_mul_lt_mul_right (hfloor.trans_le hpower) hshiftPos.le

/-- The powers of ten next to a number of the format. -/
theorem leadingExponent_spec {m : ℕ} {q : ℤ} (hm : 0 < m) (hq : -1074 ≤ q) :
    (10 : ℚ) ^ leadingExponent m q ≤ m * 2 ^ q ∧
      m * (2 : ℚ) ^ q < 10 ^ (leadingExponent m q + 1) := by
  have hexponent : (-q).toNat ≤ 1074 := by omega
  have hleast : 2 ^ 1074 ≤ 10 ^ 343 := by decide +kernel
  have h := length_toDigits_spec hm
    ((Nat.pow_le_pow_right Nat.two_pos hexponent).trans hleast)
  rw [leadingExponent]
  exact h

/-- The least number is not below the power of ten with the exponent -324. -/
theorem le_leadingExponent {m : ℕ} {q : ℤ} (hm : 0 < m) (hq : -1074 ≤ q) :
    -324 ≤ leadingExponent m q := by
  have hone : (1 : ℚ) ≤ m := by exact_mod_cast hm
  have hleast : (10 : ℚ) ^ (-324 : ℤ) < 10 ^ (leadingExponent m q + 1) := by
    calc (10 : ℚ) ^ (-324 : ℤ) ≤ 2 ^ (-1074 : ℤ) := by
          rw [zpow_neg, zpow_neg]
          exact inv_anti₀ (two_zpow_pos 1074) (two_pow_le_ten_pow (by decide +kernel))
      _ ≤ 2 ^ q := zpow_le_zpow_right₀ one_le_two hq
      _ ≤ m * 2 ^ q := le_mul_of_one_le_left (two_zpow_pos q).le hone
      _ < 10 ^ (leadingExponent m q + 1) := (leadingExponent_spec hm hq).2
  have := (zpow_lt_zpow_iff_right₀ (by norm_num)).1 hleast
  omega

/-- The greatest numbers are below the power of ten with the exponent 309. -/
theorem Near.exponent_le {m : ℕ} {q : ℤ} {x : Decimal} (near : Near m q x.value)
    (canonical : Canonical m q) (hm : 0 < m) : x.exponent ≤ 308 := by
  have hdigits : (1 : ℚ) ≤ x.digits := by
    have := (readsBack_iff_near.2 near).digits_ne_zero hm.ne'
    exact_mod_cast Nat.one_le_iff_ne_zero.2 this
  have hsignificand : (m : ℚ) + 1 ≤ 2 ^ 53 := by exact_mod_cast canonical.significand_lt
  have hscale := canonical.scale_le
  have hgreatest : (10 : ℚ) ^ x.exponent < 10 ^ (309 : ℤ) := by
    calc (10 : ℚ) ^ x.exponent ≤ x.value := le_mul_of_one_le_left (ten_zpow_pos _).le hdigits
      _ ≤ (m + 1 / 2) * 2 ^ q := (near.bounds hm).2
      _ < 2 ^ 53 * 2 ^ q := mul_lt_mul_of_pos_right (by linarith) (two_zpow_pos q)
      _ = 2 ^ (53 + q) := by
        rw [zpow_add₀ two_ne_zero, ← zpow_natCast]
        rfl
      _ ≤ 2 ^ (1024 : ℤ) := zpow_le_zpow_right₀ one_le_two (by omega)
      _ ≤ 10 ^ (309 : ℤ) := two_pow_le_ten_pow (by decide +kernel)
  have := (zpow_lt_zpow_iff_right₀ (by norm_num)).1 hgreatest
  omega

/-! ### The search -/

section Search

variable {tie : Tie} {m : ℕ} {q e : ℤ} {x : Decimal}

theorem readsBack_of_nearestOnGrid? (h : nearestOnGrid? tie m q e = some x) : ReadsBack m q x := by
  simp only [nearestOnGrid?] at h
  split at h
  · next hlow hhigh =>
    have hlow := of_decide_eq_true hlow
    have hhigh := of_decide_eq_true hhigh
    repeat' split at h
    all_goals
      cases h
      assumption
  · next hlow _ =>
    cases h
    exact of_decide_eq_true hlow
  · next _ hhigh =>
    cases h
    exact of_decide_eq_true hhigh
  · cases h

/-- Only the two neighbours on the grid are looked at. -/
theorem neighbour_of_nearestOnGrid? (h : nearestOnGrid? tie m q e = some x) :
    x.exponent = e ∧ x.digits ≤ 4 * m * binaryWeight q e / decimalWeight q e + 1 := by
  simp only [nearestOnGrid?] at h
  split at h
  · repeat' split at h
    all_goals
      cases h
      exact ⟨rfl, by simp⟩
  · cases h
    exact ⟨rfl, Nat.le_succ _⟩
  · cases h
    exact ⟨rfl, le_rfl⟩
  · cases h

/-- The two neighbours enclose the number. -/
theorem neighbours_enclose (m : ℕ) (q e : ℤ) :
    let low := 4 * m * binaryWeight q e / decimalWeight q e
    (low : ℚ) * 10 ^ e ≤ m * 2 ^ q ∧ (m : ℚ) * 2 ^ q < (low + 1 : ℕ) * 10 ^ e := by
  intro low
  have hbinary : (0 : ℚ) < binaryWeight q e := by exact_mod_cast binaryWeight_pos q e
  have hpos := two_zpow_pos (-q)
  have hcancel := mul_two_zpow_cancel m q
  -- in quarters of the binary grid
  have hscaled (n : ℕ) : 4 * ((n : ℚ) * 10 ^ e * 2 ^ (-q)) =
      (n * decimalWeight q e : ℕ) / binaryWeight q e := by
    rw [Nat.cast_mul, mul_div_assoc, weight_ratio]
    ring
  constructor
  · have hfloor : low * decimalWeight q e ≤ 4 * m * binaryWeight q e := Nat.div_mul_le_self _ _
    have hquarters : 4 * ((low : ℚ) * 10 ^ e * 2 ^ (-q)) ≤ 4 * (m * 2 ^ q * 2 ^ (-q)) := by
      rw [hscaled, hcancel, div_le_iff₀ hbinary]
      exact_mod_cast hfloor
    exact le_of_mul_le_mul_right (by linarith) hpos
  · have hfloor : 4 * m * binaryWeight q e < (low + 1) * decimalWeight q e :=
      Nat.lt_mul_of_div_lt (Nat.lt_succ_self low) (decimalWeight_pos q e)
    have hquarters :
        4 * (m * 2 ^ q * 2 ^ (-q)) < 4 * (((low + 1 : ℕ) : ℚ) * 10 ^ e * 2 ^ (-q)) := by
      rw [hscaled, hcancel, lt_div_iff₀ hbinary]
      exact_mod_cast hfloor
    exact lt_of_mul_lt_mul_right (by linarith) hpos.le

/-- A grid that is finer than the interval of a number has a point in it. -/
theorem exists_nearestOnGrid? (tie : Tie) (hm : 0 < m)
    (hfine : 4 * (10 ^ e * 2 ^ (-q)) < (upperEnd m : ℚ) - lowerEnd m q) :
    ∃ x, nearestOnGrid? tie m q e = some x := by
  obtain ⟨hlow, hhigh⟩ := neighbours_enclose m q e
  have hnear := near_of_enclosed hm hlow hhigh.le (by
    rw [Nat.cast_succ, add_one_mul, add_sub_cancel_left]
    exact hfine)
  have hreads := hnear.imp
    (readsBack_iff_near (x := ⟨4 * m * binaryWeight q e / decimalWeight q e, e⟩)).2
    (readsBack_iff_near (x := ⟨4 * m * binaryWeight q e / decimalWeight q e + 1, e⟩)).2
  simp only [nearestOnGrid?]
  split
  · split
    · exact ⟨_, rfl⟩
    · split
      · exact ⟨_, rfl⟩
      · cases tie with
        | upward => exact ⟨_, rfl⟩
        | toEven =>
          dsimp only
          split <;> exact ⟨_, rfl⟩
  · exact ⟨_, rfl⟩
  · exact ⟨_, rfl⟩
  · next hlow hhigh =>
    exact absurd hreads (not_or.2 ⟨of_decide_eq_false hlow, of_decide_eq_false hhigh⟩)

/-- The grid of the seventeenth digit is fine enough for any number. -/
theorem seventeenth_fine (canonical : Canonical m q) (hm : 0 < m) :
    4 * ((10 : ℚ) ^ (leadingExponent m q - 16) * 2 ^ (-q)) < (upperEnd m : ℚ) - lowerEnd m q := by
  obtain ⟨hfirst, -⟩ := leadingExponent_spec hm canonical.scale_ge
  have hcancel := mul_two_zpow_cancel m q
  have hstep : (10 : ℚ) ^ (leadingExponent m q - 16) * 2 ^ (-q) ≤ m / 10 ^ 16 := by
    rw [zpow_sub₀ (by norm_num), div_mul_eq_mul_div]
    refine div_le_div_of_nonneg_right ?_ (by norm_num)
    exact hcancel ▸ mul_le_mul_of_nonneg_right hfirst (two_zpow_pos (-q)).le
  have hupper : (m : ℚ) < 2 ^ 53 := by exact_mod_cast canonical.significand_lt
  rw [cast_upperEnd, cast_lowerEnd hm]
  split
  · next hpower =>
    have hvalue : (m : ℚ) = 2 ^ 52 := by exact_mod_cast hpower.1
    rw [hvalue] at hstep ⊢
    linarith
  · linarith

/-- A shortest decimal is always found. It has seventeen digits at most. -/
theorem exists_shortest (tie : Tie) (canonical : Canonical m q) (hm : 0 < m) :
    ∃ x : Decimal, shortest tie m q = x.trimZeros 20 ∧ Near m q x.value ∧ x.digits ≤ 10 ^ 17 ∧
      leadingExponent m q - 16 ≤ x.exponent := by
  obtain ⟨y, hy⟩ := exists_nearestOnGrid? tie hm (seventeenth_fine canonical hm)
  have hsearch : ((List.range 17).map fun n : ℕ => leadingExponent m q - n).findSome?
      (nearestOnGrid? tie m q) ≠ none := by
    rw [Ne, List.findSome?_eq_none_iff]
    intro hnone
    have hlast := hnone (leadingExponent m q - 16)
      (List.mem_map.2 ⟨16, List.mem_range.2 (by decide), rfl⟩)
    rw [hlast] at hy
    cases hy
  obtain ⟨x, hx⟩ := Option.ne_none_iff_exists'.1 hsearch
  obtain ⟨e, he, hfound⟩ := List.exists_of_findSome?_eq_some hx
  obtain ⟨n, hn, rfl⟩ := List.mem_map.1 he
  have hn := List.mem_range.1 hn
  obtain ⟨hexponent, hdigits⟩ := neighbour_of_nearestOnGrid? hfound
  refine ⟨x, ?_, readsBack_iff_near.1 (readsBack_of_nearestOnGrid? hfound), hdigits.trans ?_, ?_⟩
  · rw [shortest]
    simp only [hx, Option.getD_some]
  · obtain ⟨hlow, -⟩ := neighbours_enclose m q (leadingExponent m q - n)
    obtain ⟨-, hhigh⟩ := leadingExponent_spec hm canonical.scale_ge
    -- the neighbour below has at most as many digits as there are places down to the grid
    have hlt : ((4 * m * binaryWeight q (leadingExponent m q - n) /
        decimalWeight q (leadingExponent m q - n) : ℕ) : ℚ) < 10 ^ 17 := by
      refine lt_of_mul_lt_mul_right ((hlow.trans_lt hhigh).trans_le ?_)
        (ten_zpow_pos (leadingExponent m q - n)).le
      have hplaces : (10 : ℚ) ^ 17 = 10 ^ (17 : ℤ) := by norm_cast
      rw [hplaces, ← zpow_add₀ (by norm_num)]
      exact zpow_le_zpow_right₀ (by norm_num) (by omega)
    exact Nat.succ_le_of_lt (by exact_mod_cast hlt)
  · omega

end Search

/-! ### The decimal of a number -/

/-- The decimal that a number is written as is zero only without an exponent. -/
theorem decimal_exponent (tie : Tie) (x : Binary64) :
    (x.decimal tie).digits = 0 → (x.decimal tie).exponent = 0 := by
  rw [decimal]
  split
  · exact fun _ => rfl
  · next hm =>
    rw [shortest]
    refine Decimal.trimZeros_exponent 20 fun hzero => ?_
    cases hfound : List.findSome? (nearestOnGrid? tie x.significand x.scale)
        ((List.range 17).map fun n : Nat => leadingExponent x.significand x.scale - n) with
    | none => rfl
    | some y =>
      obtain ⟨e, -, he⟩ := List.exists_of_findSome?_eq_some hfound
      rw [hfound] at hzero
      exact absurd hzero ((readsBack_of_nearestOnGrid? he).digits_ne_zero hm)

section Decimal

variable {x : Binary64} (tie : Tie)

/-- The decimal of a finite number lies near it. -/
theorem near_decimal (finite : x.isFinite = true) (hm : 0 < x.significand) :
    Near x.significand x.scale (x.decimal tie).value := by
  obtain ⟨y, hshortest, hnear, -⟩ := exists_shortest tie (canonical_parts finite) hm
  rw [decimal, if_neg hm.ne', hshortest, (y.trimZeros_spec 20).1]
  exact hnear

/-- The decimal of a finite number is rounded to it: no digit that matters is left out. -/
theorem round_decimal (finite : x.isFinite = true) : round (x.decimal tie).value = x.abs := by
  rcases Nat.eq_zero_or_pos x.significand with hzero | hpos
  · have hvalue : x.magnitude = 0 := by rw [magnitude, hzero, Nat.cast_zero, zero_mul]
    rw [← round_magnitude finite, decimal, if_pos hzero, hvalue, Decimal.value, Nat.cast_zero,
      zero_mul]
  · rw [(near_decimal tie finite hpos).round_eq (canonical_parts finite) hpos, ofParts_parts finite]

/-- How many digits there are, and where they stand. -/
theorem decimal_bounds (finite : x.isFinite = true) :
    (x.decimal tie).digits ≤ 10 ^ 17 ∧ -340 ≤ (x.decimal tie).exponent ∧
      (x.decimal tie).exponent ≤ 308 := by
  have canonical := canonical_parts finite
  rcases Nat.eq_zero_or_pos x.significand with hzero | hpos
  · rw [decimal, if_pos hzero]
    exact ⟨Nat.zero_le _, by decide, by decide⟩
  have hhigh := (near_decimal tie finite hpos).exponent_le canonical hpos
  obtain ⟨y, hshortest, -, hdigits, hexponent⟩ := exists_shortest tie canonical hpos
  obtain ⟨-, hfewer, hmoved⟩ := y.trimZeros_spec 20
  have hdecimal : x.decimal tie = y.trimZeros 20 := by rw [decimal, if_neg hpos.ne', hshortest]
  have hfirst := le_leadingExponent hpos canonical.scale_ge
  rw [hdecimal] at hhigh ⊢
  exact ⟨hfewer.trans hdigits, by omega, hhigh⟩

end Decimal

end Binary64

end Isolation
