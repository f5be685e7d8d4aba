import Isolation.Json.Number
import Isolation.Proofs.Binary64.Shortest

/-!
# Spellings of numbers

A number may be spelled in several ways: the letter of its exponent in either case, and a plus or
nothing for an exponent that is not negative. Reading finds exactly the spellings, provided that
what comes after a number cannot belong to it. What integers and floating-point numbers are written
as is one of them.

## Main definitions

* `Number.Sound` — the parts of a number are what a document may hold
* `Number.Spelled` — how a number may be spelled
* `Json.continuesNumber` — the bytes that do not end a number

## Main results

* `Number.Spelled.scan?_append`, `Number.spelled_of_scan?` — reading a spelling
* `Number.toInt?_ofInt` — integers
* `Number.sound_ofInt`, `Number.sound_ofDecimal` — all that is written is sound
-/

namespace Isolation.Json

/-- Whether a byte after a number would belong to it. -/
def continuesNumber (b : UInt8) : Bool := isDigit b || b = 0x2E || b = 0x65 || b = 0x45

theorem spanDigits_append {digits rest : List UInt8} (hdigits : ∀ b ∈ digits, isDigit b = true)
    (hrest : ∀ b ∈ rest.head?, isDigit b = false) :
    spanDigits (digits ++ rest) = (digits, rest) := by
  have hstop : rest.takeWhile isDigit = [] ∧ rest.dropWhile isDigit = rest := by
    cases rest with
    | nil => exact ⟨rfl, rfl⟩
    | cons b rest =>
      have hb := hrest b rfl
      rw [List.takeWhile_cons, List.dropWhile_cons, hb]
      exact ⟨rfl, rfl⟩
  rw [spanDigits, List.takeWhile_append_of_pos hdigits, List.dropWhile_append_of_pos hdigits,
    hstop.1, hstop.2, List.append_nil]

/-- The digits at the front and what follows are all there is. -/
theorem spanDigits_eq {bytes digits rest : List UInt8} (h : spanDigits bytes = (digits, rest)) :
    bytes = digits ++ rest ∧ ∀ b ∈ digits, isDigit b = true := by
  cases h
  exact ⟨List.takeWhile_append_dropWhile.symm, List.all_eq_true.1 List.all_takeWhile⟩

namespace Number

/-- Digits where there have to be some, and no zero in front of other digits. -/
structure Sound (n : Number) : Prop where
  whole_ne_nil : n.whole ≠ []
  whole_digits : ∀ b ∈ n.whole, isDigit b = true
  whole_zero : n.whole.head? = some 0x30 → n.whole = [0x30]
  fraction_digits : ∀ b ∈ n.fraction, isDigit b = true
  exponent_digits : ∀ e ∈ n.exponent, e.2 ≠ [] ∧ ∀ b ∈ e.2, isDigit b = true

/-- A fraction as it is written. -/
def renderFraction (fraction : List UInt8) : List UInt8 :=
  if fraction = [] then [] else 0x2E :: fraction

/-- How an exponent may be spelled. -/
inductive ExponentSpelled : Option (Bool × List UInt8) → List UInt8 → Prop
  | none : ExponentSpelled none []
  | minus {letter digits} (hletter : letter = 0x65 ∨ letter = 0x45) :
      ExponentSpelled (some (true, digits)) (letter :: 0x2D :: digits)
  | plus {letter digits} (hletter : letter = 0x65 ∨ letter = 0x45) :
      ExponentSpelled (some (false, digits)) (letter :: 0x2B :: digits)
  | unsigned {letter digits} (hletter : letter = 0x65 ∨ letter = 0x45) :
      ExponentSpelled (some (false, digits)) (letter :: digits)

/-- How a number may be spelled: its parts one after the other, with a sign only if it is
negative. -/
inductive Spelled (n : Number) : List UInt8 → Prop
  | mk {exponent} (sound : n.Sound) (spelled : ExponentSpelled n.exponent exponent) :
      Spelled n ((if n.negative then [0x2D] else []) ++
        (n.whole ++ (renderFraction n.fraction ++ exponent)))

/-- A number is written in one of its spellings. -/
theorem Sound.spelled {n : Number} (sound : n.Sound) : n.Spelled n.render := by
  rw [render, ← renderFraction, List.append_assoc, List.append_assoc]
  refine .mk sound ?_
  cases n.exponent with
  | none => exact .none
  | some exponent =>
    obtain ⟨negative, digits⟩ := exponent
    cases negative with
    | true => exact .minus (.inl rfl)
    | false => exact .plus (.inl rfl)

variable {bytes rest : List UInt8} {exponent : Option (Bool × List UInt8)}

theorem continuesNumber_false {b : UInt8} (h : continuesNumber b = false) :
    isDigit b = false ∧ b ≠ 0x2E ∧ b ≠ 0x65 ∧ b ≠ 0x45 := by
  simpa only [continuesNumber, Bool.or_eq_false_iff, decide_eq_false_iff_not, and_assoc] using h

theorem continuesNumber_letter {b : UInt8} (h : b = 0x65 ∨ b = 0x45) :
    isDigit b = false ∧ b ≠ 0x2E := by
  obtain rfl | rfl := h <;> exact ⟨rfl, by decide⟩

/-! ### Finding a spelling -/

theorem scanExponentDigits?_append {negative : Bool} {digits : List UInt8} (hne : digits ≠ [])
    (hdigits : ∀ b ∈ digits, isDigit b = true) (hrest : ∀ b ∈ rest.head?, isDigit b = false) :
    scanExponentDigits? negative (digits ++ rest) = some (some (negative, digits), rest) := by
  simp only [scanExponentDigits?, spanDigits_append hdigits hrest, hne, if_false]

/-- Digits without a sign in front of them. -/
theorem scanExponent?_unsigned {letter : UInt8} {digits : List UInt8}
    (hletter : letter = 0x65 ∨ letter = 0x45) (hne : digits ≠ [])
    (hdigits : ∀ b ∈ digits, isDigit b = true) :
    scanExponent? (letter :: (digits ++ rest)) = scanExponentDigits? false (digits ++ rest) := by
  rw [scanExponent?.eq_def]
  simp only [hletter, if_true]
  cases digits with
  | nil => exact absurd rfl hne
  | cons b digits =>
    -- a digit is no sign
    have hb := hdigits b List.mem_cons_self
    split
    · next heq =>
      injection heq with heq
      rw [heq] at hb
      cases hb
    · next heq =>
      injection heq with heq
      rw [heq] at hb
      cases hb
    · rfl

theorem ExponentSpelled.scan?_append (spelled : ExponentSpelled exponent bytes)
    (hdigits : ∀ e ∈ exponent, e.2 ≠ [] ∧ ∀ b ∈ e.2, isDigit b = true)
    (hrest : ∀ b ∈ rest.head?, continuesNumber b = false) :
    scanExponent? (bytes ++ rest) = some (exponent, rest) := by
  have hstop : ∀ b ∈ rest.head?, isDigit b = false :=
    fun b hb => (continuesNumber_false (hrest b hb)).1
  cases spelled with
  | none =>
    rw [List.nil_append]
    cases rest with
    | nil => rfl
    | cons b rest =>
      obtain ⟨-, -, he, hE⟩ := continuesNumber_false (hrest b rfl)
      rw [scanExponent?.eq_def]
      exact if_neg (not_or.2 ⟨he, hE⟩)
  | minus hletter | plus hletter =>
    obtain ⟨hne, hall⟩ := hdigits _ rfl
    rw [List.cons_append, List.cons_append, scanExponent?.eq_def]
    simp only [hletter, if_true]
    exact scanExponentDigits?_append hne hall hstop
  | unsigned hletter =>
    obtain ⟨hne, hall⟩ := hdigits _ rfl
    rw [List.cons_append, scanExponent?_unsigned hletter hne hall]
    exact scanExponentDigits?_append hne hall hstop

theorem scanFraction?_append {fraction : List UInt8} (hdigits : ∀ b ∈ fraction, isDigit b = true)
    (hrest : ∀ b ∈ rest.head?, isDigit b = false ∧ b ≠ 0x2E) :
    scanFraction? (renderFraction fraction ++ rest) = some (fraction, rest) := by
  rw [renderFraction]
  split
  · next hnil =>
    rw [hnil, List.nil_append, scanFraction?.eq_def]
    split
    · exact absurd rfl (hrest _ rfl).2
    · rfl
  · next hne =>
    have hspan := spanDigits_append hdigits fun b hb => (hrest b hb).1
    simp only [List.cons_append, scanFraction?, hspan, hne, if_false]

theorem ExponentSpelled.head? (spelled : ExponentSpelled exponent bytes)
    (hrest : ∀ b ∈ rest.head?, continuesNumber b = false) :
    ∀ b ∈ (bytes ++ rest).head?, isDigit b = false ∧ b ≠ 0x2E := by
  cases spelled with
  | none =>
    intro b hb
    obtain ⟨hdigit, hpoint, -⟩ := continuesNumber_false (hrest b hb)
    exact ⟨hdigit, hpoint⟩
  | minus hletter | plus hletter | unsigned hletter =>
    rintro b ⟨⟩
    exact continuesNumber_letter hletter

theorem head?_renderFraction {fraction tail : List UInt8}
    (htail : ∀ b ∈ tail.head?, isDigit b = false ∧ b ≠ 0x2E) :
    ∀ b ∈ (renderFraction fraction ++ tail).head?, isDigit b = false := by
  rw [renderFraction]
  split
  · exact fun b hb => (htail b hb).1
  · rintro b ⟨⟩
    rfl

theorem scanUnsigned?_append {n : Number} (sound : n.Sound)
    (spelled : ExponentSpelled n.exponent bytes)
    (hrest : ∀ b ∈ rest.head?, continuesNumber b = false) :
    scanUnsigned? n.negative (n.whole ++ (renderFraction n.fraction ++ (bytes ++ rest))) =
      some (n, rest) := by
  have hfraction :
      scanFraction? (renderFraction n.fraction ++ (bytes ++ rest)) =
        some (n.fraction, bytes ++ rest) :=
    scanFraction?_append sound.fraction_digits (spelled.head? hrest)
  have hexponent := spelled.scan?_append sound.exponent_digits hrest
  -- the whole part is cut off first, and what stands after it no longer matters
  generalize htail : renderFraction n.fraction ++ (bytes ++ rest) = tail
  rw [htail] at hfraction
  have hspan : spanDigits (n.whole ++ tail) = (n.whole, tail) :=
    htail ▸ spanDigits_append sound.whole_digits (head?_renderFraction (spelled.head? hrest))
  rw [scanUnsigned?.eq_def]
  split
  -- a zero in front is the whole number in front of the point
  · next digits heq =>
    have hzero : n.whole = [0x30] := by
      refine sound.whole_zero ?_
      cases hwhole : n.whole with
      | nil => exact absurd hwhole sound.whole_ne_nil
      | cons b more =>
        rw [hwhole] at heq
        injection heq with hb
        rw [hb, List.head?_cons]
    rw [hzero, List.singleton_append] at heq
    cases heq
    simp only [hfraction, hexponent, Option.bind_eq_bind, Option.bind_some, pure, ← hzero]
  · simp only [hspan, sound.whole_ne_nil, if_false, hfraction, hexponent, Option.bind_eq_bind,
      Option.bind_some, pure]

/-- A spelling is read to its end, whatever comes after it that cannot belong to it. -/
theorem Spelled.scan?_append {n : Number} (spelled : n.Spelled bytes)
    (hrest : ∀ b ∈ rest.head?, continuesNumber b = false) :
    scan? (bytes ++ rest) = some (n, rest) := by
  obtain ⟨sound, exponent⟩ := spelled
  have hunsigned := scanUnsigned?_append sound exponent hrest
  simp only [List.append_assoc]
  cases hneg : n.negative with
  | true =>
    rw [hneg] at hunsigned
    exact hunsigned
  | false =>
    rw [hneg] at hunsigned
    simp only [Bool.false_eq_true, if_false, List.nil_append]
    rw [scan?.eq_def]
    split
    -- the first digit would have to be a sign
    · next digits heq =>
      cases hwhole : n.whole with
      | nil => exact absurd hwhole sound.whole_ne_nil
      | cons b more =>
        rw [hwhole] at heq
        injection heq with hb
        have hdigit := sound.whole_digits b (hwhole ▸ List.mem_cons_self)
        rw [hb] at hdigit
        cases hdigit
    · exact hunsigned

/-! ### What is found is a spelling -/

theorem of_scanExponentDigits? {negative : Bool}
    (h : scanExponentDigits? negative bytes = some (exponent, rest)) :
    ∃ digits, exponent = some (negative, digits) ∧ bytes = digits ++ rest ∧ digits ≠ [] ∧
      ∀ b ∈ digits, isDigit b = true := by
  rw [scanExponentDigits?] at h
  cases hspan : spanDigits bytes with
  | mk digits after =>
    obtain ⟨hbytes, hdigits⟩ := spanDigits_eq hspan
    simp only [hspan] at h
    split at h
    · cases h
    · next hne =>
      cases h
      exact ⟨digits, rfl, hbytes, hne, hdigits⟩

theorem of_scanExponent? (h : scanExponent? bytes = some (exponent, rest)) :
    ∃ front, bytes = front ++ rest ∧ ExponentSpelled exponent front ∧
      ∀ e ∈ exponent, e.2 ≠ [] ∧ ∀ b ∈ e.2, isDigit b = true := by
  rw [scanExponent?.eq_def] at h
  split at h
  · next letter after =>
    split at h
    · next hletter =>
      split at h
      · obtain ⟨digits, rfl, rfl, hne, hdigits⟩ := of_scanExponentDigits? h
        exact ⟨_, rfl, .plus hletter, fun e he => by cases he; exact ⟨hne, hdigits⟩⟩
      · obtain ⟨digits, rfl, rfl, hne, hdigits⟩ := of_scanExponentDigits? h
        exact ⟨_, rfl, .minus hletter, fun e he => by cases he; exact ⟨hne, hdigits⟩⟩
      · obtain ⟨digits, rfl, rfl, hne, hdigits⟩ := of_scanExponentDigits? h
        exact ⟨_, rfl, .unsigned hletter, fun e he => by cases he; exact ⟨hne, hdigits⟩⟩
    · cases h
      exact ⟨[], rfl, .none, nofun⟩
  · cases h
    exact ⟨[], rfl, .none, nofun⟩

theorem of_scanFraction? {fraction : List UInt8}
    (h : scanFraction? bytes = some (fraction, rest)) :
    bytes = renderFraction fraction ++ rest ∧ ∀ b ∈ fraction, isDigit b = true := by
  rw [scanFraction?.eq_def] at h
  split at h
  · next after =>
    cases hspan : spanDigits after with
    | mk digits others =>
      obtain ⟨hbytes, hdigits⟩ := spanDigits_eq hspan
      simp only [hspan] at h
      split at h
      · cases h
      · next hne =>
        cases h
        rw [renderFraction, if_neg hne, hbytes]
        exact ⟨rfl, hdigits⟩
  · cases h
    exact ⟨rfl, nofun⟩

/-- The fraction and the exponent behind a whole number. -/
theorem of_scanParts? {negative : Bool} {whole : List UInt8} {n : Number}
    (h : (do
      let (fraction, rest) ← scanFraction? bytes
      let (exponent, rest) ← scanExponent? rest
      return ((⟨negative, whole, fraction, exponent⟩ : Number), rest)) = some (n, rest))
    (hne : whole ≠ []) (hdigits : ∀ b ∈ whole, isDigit b = true)
    (hzero : whole.head? = some 0x30 → whole = [0x30]) :
    ∃ exponent, whole ++ bytes = n.whole ++ (renderFraction n.fraction ++ exponent) ++ rest ∧
      ExponentSpelled n.exponent exponent ∧ n.Sound ∧ n.negative = negative := by
  obtain ⟨⟨fraction, afterFraction⟩, hfraction, hmore⟩ := Option.bind_eq_some_iff.1 h
  obtain ⟨⟨exponent, afterExponent⟩, hexponent, hend⟩ := Option.bind_eq_some_iff.1 hmore
  obtain ⟨rfl, hfractions⟩ := of_scanFraction? hfraction
  obtain ⟨front, rfl, spelled, hexponents⟩ := of_scanExponent? hexponent
  cases hend
  exact ⟨front, by simp, spelled, ⟨hne, hdigits, hzero, hfractions, hexponents⟩, rfl⟩

theorem of_scanUnsigned? {negative : Bool} {n : Number}
    (h : scanUnsigned? negative bytes = some (n, rest)) :
    ∃ exponent, bytes = n.whole ++ (renderFraction n.fraction ++ exponent) ++ rest ∧
      ExponentSpelled n.exponent exponent ∧ n.Sound ∧ n.negative = negative := by
  rw [scanUnsigned?.eq_def] at h
  split at h
  · exact of_scanParts? h nofun (by simp [isDigit]) fun _ => rfl
  · next hzero =>
    cases hspan : spanDigits bytes with
    | mk digits after =>
      obtain ⟨rfl, hdigits⟩ := spanDigits_eq hspan
      simp only [hspan] at h
      split at h
      · cases h
      · next hne =>
        refine of_scanParts? h hne hdigits fun hhead => ?_
        cases digits with
        | nil => cases hhead
        | cons b more =>
          cases hhead
          exact absurd rfl (hzero (more ++ after))

/-- What is read as a number is one of its spellings. -/
theorem spelled_of_scan? {n : Number} (h : scan? bytes = some (n, rest)) :
    ∃ front, bytes = front ++ rest ∧ n.Spelled front := by
  rw [scan?.eq_def] at h
  split at h
  · obtain ⟨exponent, rfl, spelled, sound, hneg⟩ := of_scanUnsigned? h
    refine ⟨_, ?_, .mk sound spelled⟩
    simp [hneg]
  · obtain ⟨exponent, rfl, spelled, sound, hneg⟩ := of_scanUnsigned? h
    refine ⟨_, ?_, .mk sound spelled⟩
    simp [hneg]

/-! ### Digits -/

theorem isDigit_ofNat {c : Char} (h : c.isDigit = true) :
    isDigit (UInt8.ofNat c.toNat) = true ∧ (UInt8.ofNat c.toNat).toNat = c.toNat := by
  have hval : c.val.toNat = c.toNat := rfl
  simp only [Char.isDigit, ge_iff_le, Bool.and_eq_true, decide_eq_true_eq, UInt32.le_iff_toNat_le,
    hval] at h
  have hlow : 48 ≤ c.toNat := h.1
  have hhigh : c.toNat ≤ 57 := h.2
  have hlt : c.toNat < 256 := by omega
  have hnat : (UInt8.ofNat c.toNat).toNat = c.toNat := UInt8.toNat_ofNat_of_lt' hlt
  refine ⟨?_, hnat⟩
  simp only [isDigit, Bool.and_eq_true, decide_eq_true_eq, UInt8.le_iff_toNat_le, hnat,
    UInt8.reduceToNat]
  exact ⟨hlow, hhigh⟩

theorem isDigit_of_mem_digitBytes {n : Nat} {b : UInt8}
    (h : b ∈ digitBytes (Text.natDigits n)) : isDigit b = true := by
  obtain ⟨c, hc, rfl⟩ := List.mem_map.1 h
  exact (isDigit_ofNat (Text.isDigit_of_mem_natDigits hc)).1

theorem digitBytes_ne_nil (n : Nat) : digitBytes (Text.natDigits n) ≠ [] := by
  rw [digitBytes, ne_eq, List.map_eq_nil_iff]
  exact Nat.toDigits_ne_nil

/-- Only zero begins with a zero. -/
theorem head?_natDigits {n : Nat} (h : (Text.natDigits n).head? = some '0') : n = 0 := by
  induction n using Nat.strongRecOn with
  | _ n ih =>
    rw [Text.natDigits] at h
    by_cases hlt : n < 10
    · rw [Nat.toDigits_of_lt_base hlt, List.head?_cons, Option.some.injEq] at h
      have hdigit : ∀ n < 10, Nat.digitChar n = '0' → n = 0 := by decide
      exact hdigit n hlt h
    · have hge : 10 ≤ n := Nat.not_lt.1 hlt
      have hsome : (Nat.toDigits 10 (n / 10)).head?.isSome = true :=
        List.isSome_head?.2 Nat.toDigits_ne_nil
      rw [Nat.toDigits_of_base_le (by decide) hge, List.head?_append,
        Option.or_of_isSome hsome] at h
      -- the first digit is that of the quotient, which would be zero
      have hquotient := ih (n / 10) (by omega) h
      omega

theorem head?_digitBytes {n : Nat} (h : (digitBytes (Text.natDigits n)).head? = some 0x30) :
    n = 0 := by
  rw [digitBytes, List.head?_map] at h
  obtain ⟨c, hc, hbyte⟩ := Option.map_eq_some_iff.1 h
  have hdigit := isDigit_ofNat (Text.isDigit_of_mem_natDigits (List.mem_of_head? hc))
  have hnat : c.toNat = 48 := by rw [← hdigit.2, hbyte]; rfl
  have hzero : c = '0' := by rw [← Char.ofNat_toNat c, hnat]
  exact head?_natDigits (hzero ▸ hc)

theorem digitsValue_digitBytes {digits : List Char} (h : ∀ c ∈ digits, c.isDigit = true)
    (read : Nat) : digitsValue (digitBytes digits) read = Nat.ofDigitChars 10 digits read := by
  induction digits generalizing read with
  | nil => rfl
  | cons c digits ih =>
    have hc := (isDigit_ofNat (h c List.mem_cons_self)).2
    have ih' := ih (fun d hd => h d (List.mem_cons_of_mem c hd)) (10 * read + (c.toNat - 48))
    rw [Nat.ofDigitChars_cons, digitBytes, List.map_cons, digitsValue, List.foldl_cons, digitValue,
      hc]
    exact ih'

theorem digitsValue_natDigits (n : Nat) :
    digitsValue (digitBytes (Text.natDigits n)) 0 = n := by
  rw [digitsValue_digitBytes fun _ => Text.isDigit_of_mem_natDigits, Text.natDigits,
    Nat.ofDigitChars_ten_toDigits]

/-! ### Integers -/

theorem sound_ofInt (n : Int) : (ofInt n).Sound where
  whole_ne_nil := digitBytes_ne_nil _
  whole_digits _ := isDigit_of_mem_digitBytes
  whole_zero h := by
    have hzero : n.natAbs = 0 := head?_digitBytes h
    simp only [ofInt, hzero]
    rfl
  fraction_digits := nofun
  exponent_digits := nofun

theorem digitsValue_ofInt (n : Int) : digitsValue (ofInt n).whole 0 = n.natAbs :=
  digitsValue_natDigits n.natAbs

theorem isInteger_ofInt (n : Int) : (ofInt n).isInteger = true := by
  have hnegative : (ofInt n).negative = decide (n < 0) := rfl
  have hfraction : (ofInt n).fraction = [] := rfl
  have hexponent : (ofInt n).exponent = none := rfl
  rw [isInteger, digitsValue_ofInt, hnegative, hfraction, hexponent]
  by_cases hneg : n < 0
  · have hne : n.natAbs ≠ 0 := by omega
    simp [hneg, hne]
  · simp [hneg]

/-- An integer is read back from what it is written as. -/
theorem toInt?_ofInt (n : Int) : (ofInt n).toInt? = some n := by
  have hnegative : (ofInt n).negative = decide (n < 0) := rfl
  rw [toInt?, if_pos (isInteger_ofInt n), digitsValue_ofInt, hnegative]
  by_cases hneg : n < 0
  · simp only [hneg, decide_true, if_true, Option.some.injEq]
    omega
  · simp only [hneg, decide_false, Bool.false_eq_true, if_false, Option.some.injEq]
    omega

theorem toNat?_ofInt (n : Nat) : (ofInt n).toNat? = some n := by
  have hnegative : (ofInt n).negative = false := by
    simp [ofInt]
  rw [toNat?, isInteger_ofInt, hnegative, digitsValue_ofInt]
  rfl

/-! ### Floating-point numbers -/

theorem isDigit_of_mem_zeros {n : Nat} {b : UInt8} (h : b ∈ List.replicate n 0x30) :
    isDigit b = true := by
  rw [List.eq_of_mem_replicate h]
  rfl

section Decimals

variable {negative : Bool} {digits : List UInt8} (hne : digits ≠ [])
  (hdigits : ∀ b ∈ digits, isDigit b = true)

include hne hdigits

/-- Digits with zeros behind them, which stand for a whole number. -/
theorem sound_zerosBehind {zeros : Nat}
    (hzero : digits.head? = some 0x30 → digits = [0x30] ∧ zeros = 0) :
    Sound ⟨negative, digits ++ List.replicate zeros 0x30, [0x30], none⟩ where
  whole_ne_nil := List.append_ne_nil_of_left_ne_nil hne _
  whole_digits b hb := by
    rcases List.mem_append.1 hb with hb | hb
    · exact hdigits b hb
    · exact isDigit_of_mem_zeros hb
  whole_zero hhead := by
    have hsome : digits.head?.isSome = true := List.isSome_head?.2 hne
    rw [List.head?_append, Option.or_of_isSome hsome] at hhead
    obtain ⟨hone, hzeros⟩ := hzero hhead
    rw [hone, hzeros]
    rfl
  fraction_digits b hb := by
    rw [List.mem_singleton.1 hb]
    rfl
  exponent_digits := nofun

/-- Digits with the point or the exponent after some of them. -/
theorem sound_split {places : Nat} {exponent : Option (Bool × List UInt8)} (hplaces : places ≠ 0)
    (hzero : digits.head? = some 0x30 → digits = [0x30])
    (hexponent : ∀ e ∈ exponent, e.2 ≠ [] ∧ ∀ b ∈ e.2, isDigit b = true) :
    Sound ⟨negative, digits.take places, digits.drop places, exponent⟩ where
  whole_ne_nil := by
    rw [ne_eq, List.take_eq_nil_iff]
    exact not_or.2 ⟨hplaces, hne⟩
  whole_digits b hb := hdigits b (List.mem_of_mem_take hb)
  whole_zero hhead := by
    rw [List.head?_take, if_neg hplaces] at hhead
    rw [hzero hhead]
    exact List.take_of_length_le (Nat.one_le_iff_ne_zero.2 hplaces)
  fraction_digits b hb := hdigits b (List.mem_of_mem_drop hb)
  exponent_digits := hexponent

omit hne in
/-- Digits behind a zero and the point. -/
theorem sound_zerosBefore (zeros : Nat) :
    Sound ⟨negative, [0x30], List.replicate zeros 0x30 ++ digits, none⟩ where
  whole_ne_nil := nofun
  whole_digits b hb := by
    rw [List.mem_singleton.1 hb]
    rfl
  whole_zero _ := rfl
  fraction_digits b hb := by
    rcases List.mem_append.1 hb with hb | hb
    · exact isDigit_of_mem_zeros hb
    · exact hdigits b hb
  exponent_digits := nofun

end Decimals

/-- A decimal is written with sound parts, unless it is a zero with an exponent. -/
theorem sound_ofDecimal (negative : Bool) {x : Decimal} (h : x.digits = 0 → x.exponent = 0) :
    (ofDecimal negative x).Sound := by
  have hne : digitBytes x.digitChars ≠ [] := digitBytes_ne_nil _
  have hdigits : ∀ b ∈ digitBytes x.digitChars, isDigit b = true :=
    fun _ => isDigit_of_mem_digitBytes
  have hzero : (digitBytes x.digitChars).head? = some 0x30 →
      digitBytes x.digitChars = [0x30] ∧ x.exponent = 0 := by
    intro hhead
    have hdigit := head?_digitBytes hhead
    refine ⟨?_, h hdigit⟩
    rw [Decimal.digitChars, hdigit]
    rfl
  -- from here on only the form counts in which the digits are set
  simp only [ofDecimal]
  generalize digitBytes x.digitChars = digits at hne hdigits hzero
  split
  · split
    · refine sound_zerosBehind hne hdigits fun hhead => ?_
      obtain ⟨hone, hexponent⟩ := hzero hhead
      exact ⟨hone, by rw [hexponent]; rfl⟩
    · split
      · exact sound_split hne hdigits (by omega) (fun hhead => (hzero hhead).1) nofun
      · exact sound_zerosBefore hdigits _
  · refine sound_split hne hdigits Nat.one_ne_zero (fun hhead => (hzero hhead).1) ?_
    rintro e ⟨⟩
    exact ⟨digitBytes_ne_nil _, fun _ => isDigit_of_mem_digitBytes⟩

theorem sound_of_ofFloat? {x : Binary64} {n : Number} (h : ofFloat? x = some n) :
    n.Sound := by
  rw [ofFloat?] at h
  split at h
  · cases h
    exact sound_ofDecimal _ (x.decimal_exponent .toEven)
  · cases h

end Number

end Isolation.Json
