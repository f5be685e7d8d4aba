import Isolation.Proofs.Text.Utf8

/-!
# The order of texts

Texts are ordered by the code points of their characters. Their encodings are in the same order, so
that texts which ascend also ascend as bytes.

## Main results

* `Utf8.encodeChar_append_lt` — the first characters that differ decide
* `Utf8.encode_lt_encode` — texts
-/

namespace Isolation.Text.Utf8

/-- Bytes are compared like the numbers that they hold. -/
theorem ofNat_cons_lt {m n : Nat} (hm : m < 256) (hn : n < 256) {bytes others : List UInt8} :
    UInt8.ofNat m :: bytes < UInt8.ofNat n :: others ↔ m < n ∨ m = n ∧ bytes < others := by
  rw [List.cons_lt_cons_iff, UInt8.lt_iff_toNat_lt, ← UInt8.toNat_inj, toNat_ofNat_of_lt hm,
    toNat_ofNat_of_lt hn]

/-- Of two encodings that begin with different characters the one with the smaller character comes
first, whatever follows. -/
theorem encodeChar_append_lt {c d : Char} (h : c < d) (bytes others : List UInt8) :
    String.utf8EncodeChar c ++ bytes < String.utf8EncodeChar d ++ others := by
  have hlt : c.val.toNat < d.val.toNat := h
  have hd : d.val.toNat < 0x110000 := by
    have hvalid := d.valid
    simp only [UInt32.isValidChar, Nat.isValidChar] at hvalid
    omega
  -- the digits to base 64, of which each byte holds one
  have digits (n : Nat) : n / 4096 = n / 64 / 64 ∧ n / 262144 = n / 64 / 64 / 64 := by omega
  simp only [String.utf8EncodeChar, digits]
  -- one case for each pair of lengths: a longer encoding begins with a higher byte, and in two of
  -- one length the first digits that differ decide
  repeat' split
  all_goals
    simp (disch := omega) only [List.cons_append, List.nil_append, ofNat_cons_lt]
    omega

/-- The encodings of texts are in the order of the texts. -/
theorem encodeChars_lt {chars others : List Char} (h : chars < others) :
    encodeChars chars < encodeChars others := by
  rw [← List.lex_lt] at h
  induction h with
  | @nil c chars =>
    rw [encodeChars, List.flatMap_nil, encodeChars, List.flatMap_cons]
    cases hbytes : String.utf8EncodeChar c with
    | nil => exact absurd hbytes (encodeChar_ne_nil c)
    | cons b bytes => exact List.nil_lt_cons b _
  | @rel c chars d others hlt =>
    rw [encodeChars, List.flatMap_cons, encodeChars, List.flatMap_cons]
    exact encodeChar_append_lt hlt _ _
  | @cons c chars others _ ih =>
    rw [encodeChars, List.flatMap_cons, encodeChars, List.flatMap_cons]
    exact List.append_left_lt ih

@[inherit_doc encodeChars_lt] theorem encode_lt_encode {text other : String} (h : text < other) :
    encode text < encode other :=
  encodeChars_lt (String.lt_iff.1 h)

end Isolation.Text.Utf8
