import Isolation.Proofs.Json.Number

/-!
# Reading what a decimal is written as

The digits that a decimal is written in fit into one word, so that reading collects all of them.
Read are the digits of the decimal and its power of ten, except that a number without an exponent is
read with the zeros that stand in front of its point and behind it.

## Main definitions

* `Decimal.asRead` — the digits and the power of ten that are read

## Main results

* `Number.collect_eq` — digits that fit into a word are collected
* `Number.toFloat?_ofDecimal` — reading starts from the digits and the power of ten
-/

namespace Isolation

/-- The digits and the power of ten that are read from what a decimal is written as. -/
def Decimal.asRead (x : Decimal) : Decimal :=
  if 0 ≤ x.exponent ∧ x.leading < 16 then ⟨x.digits * 10 ^ (x.exponent.toNat + 1), -1⟩ else x

/-- What is read has the value that was written. -/
theorem Decimal.value_asRead (x : Decimal) : x.asRead.value = x.value := by
  rw [asRead]
  split
  · next hplain =>
    have hten : (10 : ℚ) ≠ 0 := by norm_num
    have hexponent : ((x.exponent.toNat + 1 : ℕ) : ℤ) + -1 = x.exponent := by omega
    rw [value, value, Nat.cast_mul, Nat.cast_pow, Nat.cast_ofNat, mul_assoc, ← zpow_natCast,
      ← zpow_add₀ hten, hexponent]
  · rfl

namespace Json.Number

/-! ### Collecting digits -/

variable {digits : List UInt8} {read : ℕ}

theorem digitsValue_append (digits more : List UInt8) (read : ℕ) :
    digitsValue (digits ++ more) read = digitsValue more (digitsValue digits read) :=
  List.foldl_append

theorem digitsValue_zeros (zeros read : ℕ) :
    digitsValue (List.replicate zeros 0x30) read = read * 10 ^ zeros := by
  induction zeros generalizing read with
  | zero => exact (Nat.mul_one read).symm
  | succ zeros ih =>
    have hzero : digitValue 0x30 = 0 := rfl
    rw [List.replicate_succ, digitsValue, List.foldl_cons, hzero]
    refine (ih _).trans ?_
    rw [Nat.pow_succ]
    ring

theorem le_digitsValue (digits : List UInt8) (read : ℕ) : read ≤ digitsValue digits read := by
  induction digits generalizing read with
  | nil => exact le_rfl
  | cons b digits ih => exact le_trans (by omega) (ih (10 * read + digitValue b))

/-- Digits that fit into a word are all collected. -/
theorem collect_eq (h : digitsValue digits read ≤ maxWord) :
    collect read digits = (digitsValue digits read, 0) := by
  induction digits generalizing read with
  | nil => rfl
  | cons b digits ih =>
    have hnext : 10 * read + digitValue b ≤ maxWord := (le_digitsValue digits _).trans h
    simp only [collect, hnext, if_true]
    exact ih h

/-- A number of which all digits are collected. -/
theorem decimal_eq {n : Number} (h : digitsValue (n.whole ++ n.fraction) 0 ≤ maxWord) :
    n.decimal = (digitsValue (n.whole ++ n.fraction) 0, -(n.fraction.length : ℤ)) := by
  rw [digitsValue_append] at h ⊢
  have hwhole := collect_eq ((le_digitsValue n.fraction _).trans h)
  rw [decimal, hwhole]
  simp only [collect_eq h]
  simp

/-! ### Numbers with all their digits -/

variable (negative : Bool) (whole fraction : List UInt8) {value : ℕ}

/-- A number without an exponent is scaled by the digits of its fraction. -/
theorem toFloat?_plain (hvalue : digitsValue (whole ++ fraction) 0 = value)
    (hfits : value ≤ maxWord) :
    (⟨negative, whole, fraction, none⟩ : Number).toFloat? =
      (scaleBy? 4 (Binary64.ofNat value) (-(fraction.length : ℤ))).map
        (Binary64.withSign negative) := by
  have hdecimal := decimal_eq (n := ⟨negative, whole, fraction, none⟩) (hvalue.trans_le hfits)
  rw [toFloat?, hdecimal]
  simp only [hvalue]

/-- A number with an exponent is scaled by it too. -/
theorem toFloat?_scientific {e : ℤ} (hvalue : digitsValue (whole ++ fraction) 0 = value)
    (hfits : value ≤ maxWord) (hexponent : e.natAbs ≤ maxExponent)
    (hlow : -(2 ^ 31 : ℕ) ≤ e - fraction.length) (hhigh : e - fraction.length ≤ maxExponent) :
    (⟨negative, whole, fraction,
        some (decide (e < 0), digitBytes (Text.natDigits e.natAbs))⟩ : Number).toFloat? =
      (scaleBy? 4 (Binary64.ofNat value) (e - fraction.length)).map
        (Binary64.withSign negative) := by
  have hdecimal := decimal_eq (n := ⟨negative, whole, fraction,
    some (decide (e < 0), digitBytes (Text.natDigits e.natAbs))⟩) (hvalue.trans_le hfits)
  have hsigned : (if decide (e < 0) = true then -((e.natAbs : ℕ) : ℤ) else e.natAbs) = e := by
    by_cases hneg : e < 0
    · simp only [hneg, decide_true, if_true]
      omega
    · simp only [hneg, decide_false, Bool.false_eq_true, if_false]
      omega
  have hclamp : clampExponent (-(fraction.length : ℤ) + e) = e - fraction.length := by
    rw [clampExponent]
    omega
  rw [toFloat?, hdecimal]
  simp only [hvalue, digitsValue_natDigits, Nat.not_lt.2 hexponent, if_false, hsigned, hclamp]

/-! ### Written decimals -/

/-- The digits of a decimal, as many as there are places from the first one down. -/
theorem length_digitBytes (x : Decimal) :
    ((digitBytes x.digitChars).length : ℤ) = x.leading - x.exponent + 1 := by
  rw [digitBytes, List.length_map, Decimal.leading]
  ring

theorem digitsValue_digitChars (x : Decimal) :
    digitsValue (digitBytes x.digitChars) 0 = x.digits := digitsValue_natDigits x.digits

theorem digits_lt (x : Decimal) : x.digits < 10 ^ (digitBytes x.digitChars).length := by
  rw [digitBytes, List.length_map]
  exact (Nat.length_toDigits_le_iff (by decide) Nat.length_toDigits_pos).1 le_rfl

/-- Seventeen digits have seventeen places at most, and the number with eighteen. -/
theorem length_le_of_digits_le {x : Decimal} (h : x.digits ≤ 10 ^ 17) :
    (digitBytes x.digitChars).length ≤ 18 := by
  rw [digitBytes, List.length_map]
  exact (Nat.length_toDigits_le_iff (by decide) (by decide)).2 (by omega)

/-- Seventeen digits at most are read, since those of a whole number end before the seventeenth
place in front of the point. -/
theorem asRead_bounds {x : Decimal} (hdigits : x.digits ≤ 10 ^ 17) (hlow : -340 ≤ x.exponent)
    (hhigh : x.exponent ≤ 308) :
    x.asRead.digits ≤ 10 ^ 17 ∧ -340 ≤ x.asRead.exponent ∧ x.asRead.exponent ≤ 308 := by
  rw [Decimal.asRead]
  split
  · next hplain =>
    have hlength := length_digitBytes x
    have hplaces : (digitBytes x.digitChars).length + (x.exponent.toNat + 1) ≤ 17 := by omega
    refine ⟨?_, (by decide : (-340 : ℤ) ≤ -1), (by decide : (-1 : ℤ) ≤ 308)⟩
    calc x.digits * 10 ^ (x.exponent.toNat + 1)
        ≤ 10 ^ (digitBytes x.digitChars).length * 10 ^ (x.exponent.toNat + 1) :=
          Nat.mul_le_mul_right _ (digits_lt x).le
      _ = 10 ^ ((digitBytes x.digitChars).length + (x.exponent.toNat + 1)) :=
          (Nat.pow_add 10 _ _).symm
      _ ≤ 10 ^ 17 := Nat.pow_le_pow_right (by decide) hplaces
  · exact ⟨hdigits, hlow, hhigh⟩

/-- A whole number is written with zeros in front of the point and one behind it. -/
theorem toFloat?_whole (negative : Bool) {digits : List UInt8} {value zeros : ℕ}
    (hvalue : digitsValue digits 0 = value) (hfits : value * 10 ^ (zeros + 1) ≤ maxWord) :
    (⟨negative, digits ++ List.replicate zeros 0x30, [0x30], none⟩ : Number).toFloat? =
      (scaleBy? 4 (Binary64.ofNat (value * 10 ^ (zeros + 1))) (-1)).map
        (Binary64.withSign negative) := by
  refine toFloat?_plain _ _ _ ?_ hfits
  rw [digitsValue_append, digitsValue_append, hvalue, digitsValue_zeros]
  exact (digitsValue_zeros 1 _).trans (by ring)

/-- The point stands among the digits. -/
theorem toFloat?_inside (negative : Bool) {digits : List UInt8} {value places : ℕ}
    (hvalue : digitsValue digits 0 = value) (hfits : value ≤ maxWord)
    (hinside : places ≤ digits.length) :
    (⟨negative, digits.take (digits.length - places), digits.drop (digits.length - places),
        none⟩ : Number).toFloat? =
      (scaleBy? 4 (Binary64.ofNat value) (-(places : ℤ))).map (Binary64.withSign negative) := by
  have hall : digitsValue (digits.take (digits.length - places) ++
      digits.drop (digits.length - places)) 0 = value := by
    rw [List.take_append_drop, hvalue]
  have hplaces : (digits.drop (digits.length - places)).length = places := by
    rw [List.length_drop]
    omega
  rw [toFloat?_plain _ _ _ hall hfits, hplaces]

/-- The point stands in front of the digits. -/
theorem toFloat?_before (negative : Bool) {digits : List UInt8} {value places : ℕ}
    (hvalue : digitsValue digits 0 = value) (hfits : value ≤ maxWord)
    (hbefore : digits.length ≤ places) :
    (⟨negative, [0x30], List.replicate (places - digits.length) 0x30 ++ digits,
        none⟩ : Number).toFloat? =
      (scaleBy? 4 (Binary64.ofNat value) (-(places : ℤ))).map (Binary64.withSign negative) := by
  have hall : digitsValue ([0x30] ++ (List.replicate (places - digits.length) 0x30 ++ digits)) 0 =
      value := by
    have hnone : digitsValue [0x30] 0 = 0 := rfl
    rw [digitsValue_append, digitsValue_append, hnone, digitsValue_zeros, Nat.zero_mul, hvalue]
  have hplaces : (List.replicate (places - digits.length) (0x30 : UInt8) ++ digits).length =
      places := by
    rw [List.length_append, List.length_replicate]
    omega
  rw [toFloat?_plain _ _ _ hall hfits, hplaces]

/-- Reading what a decimal is written as starts from its digits and its power of ten. -/
theorem toFloat?_ofDecimal (negative : Bool) {x : Decimal} (hdigits : x.digits ≤ 10 ^ 17)
    (hlow : -340 ≤ x.exponent) (hhigh : x.exponent ≤ 308) :
    (ofDecimal negative x).toFloat? =
      (scaleBy? 4 (Binary64.ofNat x.asRead.digits) x.asRead.exponent).map
        (Binary64.withSign negative) := by
  have hword : 10 ^ 17 ≤ maxWord := by decide
  have hfits := hdigits.trans hword
  have hbound := (asRead_bounds hdigits hlow hhigh).1.trans hword
  have hlength := length_digitBytes x
  have hshort := length_le_of_digits_le hdigits
  have hvalue := digitsValue_digitChars x
  have hne : 0 < (digitBytes x.digitChars).length :=
    List.length_pos_iff.2 (digitBytes_ne_nil x.digits)
  simp only [ofDecimal, Decimal.asRead] at hbound ⊢
  generalize digitBytes x.digitChars = digits at hlength hshort hvalue hne
  -- the forms in which a decimal is written, in their order
  split
  · next hplain =>
    split
    · next hwhole =>
      have hread : 0 ≤ x.exponent ∧ x.leading < 16 := ⟨by omega, hplain.2⟩
      rw [if_pos hread] at hbound ⊢
      exact toFloat?_whole negative hvalue hbound
    · next hfraction =>
      have hread : ¬ (0 ≤ x.exponent ∧ x.leading < 16) := by omega
      have hplaces : -((-x.exponent).toNat : ℤ) = x.exponent := by omega
      rw [if_neg hread]
      split
      · next hinside =>
        rw [toFloat?_inside negative hvalue hfits (by omega), hplaces]
      · next hbefore =>
        rw [toFloat?_before negative hvalue hfits (by omega), hplaces]
  -- the point stands behind the first digit, and there is an exponent
  · next hscientific =>
    have hread : ¬ (0 ≤ x.exponent ∧ x.leading < 16) := by omega
    have hdrop : ((digits.drop 1).length : ℤ) = x.leading - x.exponent := by
      rw [List.length_drop]
      omega
    have hpower : x.leading - ((digits.drop 1).length : ℤ) = x.exponent := by omega
    have hall : digitsValue (digits.take 1 ++ digits.drop 1) 0 = x.digits := by
      rw [List.take_append_drop, hvalue]
    have hclamped : (2 ^ 31 : ℕ) = 2147483648 ∧ maxExponent = 2147483647 := ⟨rfl, rfl⟩
    rw [if_neg hread, toFloat?_scientific _ _ _ hall hfits (by omega) (by omega) (by omega), hpower]

end Json.Number

end Isolation
