import Isolation.Json.Token
import Isolation.Proofs.Text.Utf8

/-!
# Text survives quoting

The bytes between the quotes of a text are read back as the text. Where a string ends is found
without knowing what it means: it is enough that its escapes have the right form.

## Main definitions

* `Json.Raw` — the bytes that may stand between quotes

## Main results

* `Json.unescape?_escape` — escapes are taken away again
* `Json.unquoted?_quoted` — texts
* `Json.Raw.scanString?_append`, `Json.raw_of_scanString?` — the extent of a string
* `Json.raw_quoted` — what is written for a text may stand between quotes
-/

namespace Isolation.Json

open Isolation.Text

/-- A letter that escapes a character stands for it. -/
theorem shortEscape?_eq_some {c letter : Char} (h : shortEscape? c = some letter) :
    ofEscapeLetter? letter = some c ∧ letter.toNat < 0x80 := by
  unfold shortEscape? at h
  repeat' split at h
  all_goals simp only [Option.some.injEq, reduceCtorEq] at h
  all_goals
    subst_vars
    exact ⟨by decide, by decide⟩

/-- Without a letter to escape it, a character is no quote and no backslash. -/
theorem ne_of_shortEscape?_eq_none {c : Char} (h : shortEscape? c = none) :
    c ≠ '"' ∧ c ≠ '\\' := by
  constructor <;> rintro rfl <;> cases h

theorem ofDigits?_control {n : Nat} (h : n < 0x20) :
    ofDigits? '0' '0' (Hex.digit (n / 16)) (Hex.digit (n % 16)) = some n := by
  have hzero : Hex.value? '0' = some 0 := rfl
  have hhigh := Hex.value?_digit (n / 16) (by omega)
  have hlow := Hex.value?_digit (n % 16) (by omega)
  simp only [ofDigits?, hzero, hhigh, hlow, Option.bind_eq_bind, Option.bind_some, pure,
    Option.some.injEq]
  omega

theorem unescape?_escapeChar (c : Char) (rest : List Char) :
    unescape? (escapeChar c ++ rest) = (unescape? rest).map (c :: ·) := by
  rw [escapeChar]
  cases hshort : shortEscape? c with
  | some letter =>
    have hletter := (shortEscape?_eq_some hshort).1
    rw [List.cons_append, List.cons_append, List.nil_append, unescape?.eq_def]
    simp only [ne_eq, not_true_eq_false, if_false, hletter]
  | none =>
    have hne := (ne_of_shortEscape?_eq_none hshort).2
    by_cases hcontrol : c.toNat < 0x20
    -- four hexadecimal digits, which are never half of a surrogate pair
    · have hu : ofEscapeLetter? 'u' = none := rfl
      have hhigh : ¬ (0xD800 ≤ c.toNat ∧ c.toNat < 0xDC00) := by omega
      have hlow : ¬ (0xDC00 ≤ c.toNat ∧ c.toNat < 0xE000) := by omega
      simp only [hcontrol, if_true, List.cons_append, List.nil_append]
      rw [unescape?.eq_def]
      simp only [ne_eq, not_true_eq_false, if_false, hu, ofDigits?_control hcontrol, hhigh, hlow,
        Char.ofNat_toNat]
    · simp only [hcontrol, if_false, List.cons_append, List.nil_append]
      rw [unescape?.eq_def]
      simp only [ne_eq, hne, not_false_eq_true, if_true]

/-- Characters are read back from their escapes. -/
theorem unescape?_escape (chars : List Char) : unescape? (escape chars) = some chars := by
  induction chars with
  | nil => rw [escape, List.flatMap_nil, unescape?]
  | cons c chars ih =>
    rw [escape, List.flatMap_cons, ← escape, unescape?_escapeChar, ih, Option.map_some]

/-- A text is read back from between its quotes. -/
theorem unquoted?_quoted (text : String) : unquoted? (quoted text) = some text := by
  rw [unquoted?, quoted, Utf8.decodeChars?_encodeChars, Option.bind_some, unescape?_escape,
    Option.map_some, String.ofList_toList]

/-! ### The extent of a string -/

/-- A byte that stands for itself in a string. -/
def isPlain (b : UInt8) : Bool := b ≠ 0x22 && 0x20 ≤ b && b ≠ 0x5C

theorem isPlain_iff {b : UInt8} :
    isPlain b = true ↔ b.toNat ≠ 0x22 ∧ 0x20 ≤ b.toNat ∧ b.toNat ≠ 0x5C := by
  simp only [isPlain, ne_eq, Bool.and_eq_true, decide_eq_true_eq, UInt8.le_iff_toNat_le,
    ← UInt8.toNat_inj, UInt8.reduceToNat, and_assoc]

/-- What may stand between the quotes of a string: bytes that stand for themselves, escapes by a
letter, and escapes by four digits. Whether this is text is another question. -/
inductive Raw : List UInt8 → Prop
  | nil : Raw []
  | plain {b raw} (h : isPlain b = true) (more : Raw raw) : Raw (b :: raw)
  | letter {e raw} (h : Token.isEscapeLetter e = true) (more : Raw raw) : Raw (0x5C :: e :: raw)
  | digits {h₁ h₂ h₃ h₄ raw} (h : [h₁, h₂, h₃, h₄].all Token.isHexDigit = true) (more : Raw raw) :
      Raw (0x5C :: 0x75 :: h₁ :: h₂ :: h₃ :: h₄ :: raw)

theorem Raw.plains {bytes raw : List UInt8} (h : ∀ b ∈ bytes, isPlain b = true) (more : Raw raw) :
    Raw (bytes ++ raw) := by
  induction bytes with
  | nil => exact more
  | cons b bytes ih =>
    exact .plain (h b List.mem_cons_self) (ih fun b' hb' => h b' (List.mem_cons_of_mem b hb'))

/-- A string is found up to the first quote that does not belong to an escape. -/
theorem Raw.scanString?_append {raw : List UInt8} (h : Raw raw) (rest : List UInt8) :
    Token.scanString? (raw ++ 0x22 :: rest) = some (raw, rest) := by
  have hne : ¬ (0x5C : UInt8) = 0x22 := by decide
  induction h with
  | nil =>
    rw [List.nil_append, Token.scanString?.eq_def]
    rfl
  | @plain b raw h more ih =>
    simp only [isPlain, ne_eq, Bool.and_eq_true, decide_eq_true_eq] at h
    obtain ⟨⟨hquote, hcontrol⟩, hslash⟩ := h
    have hlt : ¬ b < 0x20 := UInt8.not_lt.2 hcontrol
    rw [List.cons_append, Token.scanString?.eq_def]
    simp only [hquote, hlt, hslash, if_false, ne_eq, not_false_eq_true, if_true, ih,
      Option.map_some]
  | letter h more ih =>
    rw [List.cons_append, List.cons_append, Token.scanString?.eq_def]
    simp only [h, if_true, ne_eq, not_true_eq_false, if_false, hne, UInt8.reduceLT, ih,
      Option.map_some]
  | digits h more ih =>
    have hletter : Token.isEscapeLetter 0x75 = false := by decide
    simp only [List.cons_append]
    rw [Token.scanString?.eq_def]
    simp only [hletter, h, if_true, ne_eq, not_true_eq_false, if_false, hne, UInt8.reduceLT,
      Bool.false_eq_true, ih, Option.map_some]

/-- What is found as a string may stand between quotes, and a quote stands behind it. -/
theorem raw_of_scanString? {bytes raw rest : List UInt8}
    (h : Token.scanString? bytes = some (raw, rest)) : Raw raw ∧ bytes = raw ++ 0x22 :: rest := by
  fun_induction Token.scanString? bytes generalizing raw rest with
  | case1 => cases h
  | case2 =>
    cases h
    exact ⟨.nil, rfl⟩
  | case3 => cases h
  | case4 b after hquote hcontrol hslash ih =>
    obtain ⟨⟨raw', rest'⟩, hscan, heq⟩ := Option.map_eq_some_iff.1 h
    cases heq
    obtain ⟨hraw, rfl⟩ := ih hscan
    refine ⟨.plain ?_ hraw, rfl⟩
    simp only [isPlain, ne_eq, Bool.and_eq_true, decide_eq_true_eq]
    exact ⟨⟨hquote, UInt8.not_lt.1 hcontrol⟩, hslash⟩
  | case5 => cases h
  | case6 b _ _ hslash e after hletter ih =>
    obtain ⟨⟨raw', rest'⟩, hscan, heq⟩ := Option.map_eq_some_iff.1 h
    cases heq
    obtain ⟨hraw, rfl⟩ := ih hscan
    obtain rfl := Decidable.of_not_not hslash
    exact ⟨.letter hletter hraw, rfl⟩
  | case7 => cases h
  | case8 b _ _ hslash e _ hu h₁ h₂ h₃ h₄ after hdigits ih =>
    obtain ⟨⟨raw', rest'⟩, hscan, heq⟩ := Option.map_eq_some_iff.1 h
    cases heq
    obtain ⟨hraw, rfl⟩ := ih hscan
    obtain rfl := Decidable.of_not_not hslash
    obtain rfl := Decidable.of_not_not hu
    exact ⟨.digits hdigits hraw, rfl⟩
  | case9 | case10 => cases h

/-- The bytes of a character that needs no escape stand for themselves. -/
theorem isPlain_of_mem_encodeChar {c : Char} (hquote : c ≠ '"') (hslash : c ≠ '\\')
    (hcontrol : ¬ c.toNat < 0x20) {b : UInt8} (h : b ∈ String.utf8EncodeChar c) :
    isPlain b = true := by
  rw [isPlain_iff]
  -- beyond ASCII all bytes are too high for a quote, a backslash or a control character
  by_cases hascii : c.toNat < 0x80
  · rw [Utf8.encodeChar_ascii hascii, List.mem_singleton] at h
    have hb : b.toNat = c.toNat := by rw [h, Utf8.toNat_ofNat_of_lt (by omega)]
    have hne {d : Char} (hd : c ≠ d) : b.toNat ≠ d.toNat := by
      rw [hb]
      intro heq
      exact hd (by rw [← Char.ofNat_toNat c, heq, Char.ofNat_toNat])
    exact ⟨hne hquote, by omega, hne hslash⟩
  · have hhigh := Utf8.le_of_mem_encodeChar (Nat.not_lt.1 hascii) h
    omega

theorem isHexDigit_digit : ∀ n < 16, (Hex.digit n).toNat < 0x80 ∧
    Token.isHexDigit (UInt8.ofNat (Hex.digit n).toNat) = true := by decide

/-- One character of a string, with its escape if it has one. -/
theorem Raw.escapeChar (c : Char) {raw : List UInt8} (more : Raw raw) :
    Raw (Utf8.encodeChars (escapeChar c) ++ raw) := by
  have hslash : String.utf8EncodeChar '\\' = [0x5C] := rfl
  rw [Json.escapeChar]
  cases hshort : shortEscape? c with
  | some letter =>
    obtain ⟨hletter, hascii⟩ := shortEscape?_eq_some hshort
    have hescape : Token.isEscapeLetter (UInt8.ofNat letter.toNat) = true := by
      rw [Token.isEscapeLetter, Utf8.toNat_ofNat_of_lt (by omega), Char.ofNat_toNat, hletter,
        Option.isSome_some]
    simp only [Utf8.encodeChars, List.flatMap_cons, List.flatMap_nil, hslash,
      Utf8.encodeChar_ascii hascii, List.cons_append, List.nil_append]
    exact .letter hescape more
  | none =>
    obtain ⟨hquote, hbackslash⟩ := ne_of_shortEscape?_eq_none hshort
    by_cases hcontrol : c.toNat < 0x20
    -- the escape is six bytes long, and none of them ends the string
    · obtain ⟨hascii, hhigh⟩ := isHexDigit_digit (c.toNat / 16) (by omega)
      obtain ⟨hascii', hlow⟩ := isHexDigit_digit (c.toNat % 16) (by omega)
      have hu : String.utf8EncodeChar 'u' = [0x75] := rfl
      have hzero : String.utf8EncodeChar '0' = [0x30] := rfl
      have hdigit : Token.isHexDigit 0x30 = true := by decide
      simp only [hcontrol, if_true, Utf8.encodeChars, List.flatMap_cons, List.flatMap_nil, hslash,
        hu, hzero, Utf8.encodeChar_ascii hascii, Utf8.encodeChar_ascii hascii', List.cons_append,
        List.nil_append]
      refine .digits ?_ more
      simp only [hdigit, hhigh, hlow, List.all_cons, List.all_nil, Bool.and_true]
    · simp only [hcontrol, if_false, Utf8.encodeChars, List.flatMap_cons, List.flatMap_nil,
        List.append_nil]
      exact .plains (fun b hb => isPlain_of_mem_encodeChar hquote hbackslash hcontrol hb) more

/-- What is written for a text may stand between quotes. -/
theorem raw_quoted (text : String) : Raw (quoted text) := by
  -- character by character
  rw [quoted]
  induction text.toList with
  | nil => exact .nil
  | cons c chars ih =>
    rw [escape, List.flatMap_cons, ← escape, Utf8.encodeChars_append]
    exact ih.escapeChar c

end Isolation.Json
