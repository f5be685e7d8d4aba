import Isolation.Text.Utf8

/-!
# Text survives its encoding

What is encoded as UTF-8 is read back, character by character.

## Main results

* `Utf8.decodeHead?_encodeChar` — the first character of an encoding
* `Utf8.decodeChars?_encodeChars` — sequences of characters
-/

namespace Isolation.Text.Utf8

theorem toNat_ofNat_of_lt {n : Nat} (h : n < 256) : (UInt8.ofNat n).toNat = n :=
  UInt8.toNat_ofNat_of_lt' h

/-- The length that the first byte of an encoding announces is the right one, and the bits are those
of the character. -/
theorem candidate_encodeChar (c : Char) (rest : List UInt8) :
    candidate (String.utf8EncodeChar c ++ rest) = c := by
  have hvalid : c.toNat < 0x110000 := by
    have h := c.valid
    simp only [UInt32.isValidChar, Nat.isValidChar] at h
    have : c.toNat = c.val.toNat := rfl
    omega
  have hval : c.val.toNat = c.toNat := rfl
  have of_eq {n : Nat} (h : n = c.toNat) : Char.ofNat n = c := by
    rw [h, Char.ofNat_toNat]
  -- one case for each length; the first byte tells them apart
  simp only [String.utf8EncodeChar, hval]
  split
  · next h =>
    have ha := toNat_ofNat_of_lt (show c.toNat < 256 by omega)
    simp only [List.cons_append, candidate, ha]
    rw [if_pos (by omega)]
    exact of_eq rfl
  · split
    · next h =>
      have ha := toNat_ofNat_of_lt (show c.toNat / 64 % 32 + 192 < 256 by omega)
      have hb := toNat_ofNat_of_lt (show c.toNat % 64 + 128 < 256 by omega)
      simp only [List.cons_append, candidate, extend, ha, hb]
      rw [if_neg (by omega), if_pos (by omega)]
      exact of_eq (by omega)
    · split
      · next h =>
        have ha := toNat_ofNat_of_lt (show c.toNat / 4096 % 16 + 224 < 256 by omega)
        have hb := toNat_ofNat_of_lt (show c.toNat / 64 % 64 + 128 < 256 by omega)
        have hc := toNat_ofNat_of_lt (show c.toNat % 64 + 128 < 256 by omega)
        simp only [List.cons_append, candidate, extend, ha, hb, hc]
        rw [if_neg (by omega), if_neg (by omega), if_pos (by omega)]
        exact of_eq (by omega)
      · have ha := toNat_ofNat_of_lt (show c.toNat / 262144 % 8 + 240 < 256 by omega)
        have hb := toNat_ofNat_of_lt (show c.toNat / 4096 % 64 + 128 < 256 by omega)
        have hc := toNat_ofNat_of_lt (show c.toNat / 64 % 64 + 128 < 256 by omega)
        have hd := toNat_ofNat_of_lt (show c.toNat % 64 + 128 < 256 by omega)
        simp only [List.cons_append, candidate, extend, ha, hb, hc, hd]
        rw [if_neg (by omega), if_neg (by omega), if_neg (by omega)]
        exact of_eq (by omega)

theorem dropStart?_append (start rest : List UInt8) :
    dropStart? start (start ++ rest) = some rest := by
  induction start with
  | nil => rfl
  | cons x start ih => rw [List.cons_append, dropStart?, if_pos rfl, ih]

theorem decodeHead?_encodeChar (c : Char) (rest : List UInt8) :
    decodeHead? (String.utf8EncodeChar c ++ rest) = some (c, rest) := by
  rw [decodeHead?, candidate_encodeChar, dropStart?_append, Option.map_some]

theorem decodeAux_encodeChars (chars read : List Char) :
    decodeAux (encodeChars chars) read = some (read.reverse ++ chars) := by
  induction chars generalizing read with
  | nil => rw [encodeChars, List.flatMap_nil, decodeAux, if_pos rfl, List.append_nil]
  | cons c chars ih =>
    have hhead := decodeHead?_encodeChar c (encodeChars chars)
    have hne : String.utf8EncodeChar c ++ encodeChars chars ≠ [] :=
      List.append_ne_nil_of_left_ne_nil (encodeChar_ne_nil c) _
    rw [encodeChars, List.flatMap_cons, ← encodeChars, decodeAux, if_neg hne]
    split
    · next h => cases h.symm.trans hhead
    · next c' rest h =>
      cases h.symm.trans hhead
      rw [ih, List.reverse_cons, List.append_assoc, List.singleton_append]

/-- A sequence of characters is read back from its encoding. -/
theorem decodeChars?_encodeChars (chars : List Char) :
    decodeChars? (encodeChars chars) = some chars :=
  decodeAux_encodeChars chars []

theorem encodeChars_append (chars others : List Char) :
    encodeChars (chars ++ others) = encodeChars chars ++ encodeChars others :=
  List.flatMap_append

/-- The encoding of a character of ASCII is its number. -/
theorem encodeChar_ascii {c : Char} (h : c.toNat < 0x80) :
    String.utf8EncodeChar c = [UInt8.ofNat c.toNat] := by
  have hval : c.val.toNat = c.toNat := rfl
  simp only [String.utf8EncodeChar, hval]
  rw [if_pos (by omega)]

theorem encodeChars_ascii {chars : List Char} (h : ∀ c ∈ chars, c.toNat < 0x80) :
    encodeChars chars = chars.map fun c => UInt8.ofNat c.toNat := by
  induction chars with
  | nil => rfl
  | cons c chars ih =>
    obtain ⟨hc, hchars⟩ := List.forall_mem_cons.1 h
    rw [encodeChars, List.flatMap_cons, encodeChar_ascii hc, ← encodeChars, ih hchars,
      List.map_cons, List.singleton_append]

theorem encode_append (text other : String) :
    encode (text ++ other) = encode text ++ encode other := by
  rw [encode, String.toList_append, encodeChars_append, encode, encode]

/-- Beyond ASCII all bytes of an encoding are high. -/
theorem le_of_mem_encodeChar {c : Char} (h : 0x80 ≤ c.toNat) {b : UInt8}
    (hb : b ∈ String.utf8EncodeChar c) : 0x80 ≤ b.toNat := by
  have hval : c.val.toNat = c.toNat := rfl
  have high {n : Nat} (hlow : 0x80 ≤ n) (hn : n < 256) (heq : b = UInt8.ofNat n) :
      0x80 ≤ b.toNat := by
    rw [heq, toNat_ofNat_of_lt hn]
    exact hlow
  simp only [String.utf8EncodeChar, hval] at hb
  rw [if_neg (by omega)] at hb
  split at hb
  · simp only [List.mem_cons, List.not_mem_nil, or_false] at hb
    rcases hb with hb | hb <;> exact high (by omega) (by omega) hb
  · split at hb
    · simp only [List.mem_cons, List.not_mem_nil, or_false] at hb
      rcases hb with hb | hb | hb <;> exact high (by omega) (by omega) hb
    · simp only [List.mem_cons, List.not_mem_nil, or_false] at hb
      rcases hb with hb | hb | hb | hb <;> exact high (by omega) (by omega) hb

end Isolation.Text.Utf8
