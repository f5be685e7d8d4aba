/-!
# Text as bytes

The encoding of text in bytes, UTF-8, and its reading: strict, or with a replacement character in
the place of what is no text.

## Main definitions

* `Utf8.encode` — the bytes of a text
* `Utf8.decode?` — the text that bytes encode, if they encode one
* `Utf8.decodeLossy` — the same, where each ill-formed stretch becomes one replacement character

## Main results

* `Utf8.decodeHead?_eq_some` — what is read as a character is that character's encoding, so that no
  overlong form and no surrogate is ever read
-/

namespace Isolation.Text.Utf8

/-- The bytes of a sequence of characters. -/
def encodeChars (chars : List Char) : List UInt8 := chars.flatMap String.utf8EncodeChar

/-- The bytes of a text. -/
def encode (text : String) : List UInt8 := encodeChars text.toList

/-- The six bits that a byte adds to the bits before it. -/
def extend (bits : Nat) (byte : UInt8) : Nat := 64 * bits + byte.toNat % 64

/-- The one character that a byte sequence can begin with, judged by the length which its first
byte announces; bytes beyond that length are not looked at, and nothing is checked. -/
def candidate : List UInt8 → Char
  | a :: rest =>
    if a.toNat < 0x80 then Char.ofNat a.toNat
    else match rest with
      | b :: rest =>
        if a.toNat < 0xE0 then Char.ofNat (extend (a.toNat % 32) b)
        else match rest with
          | c :: rest =>
            if a.toNat < 0xF0 then Char.ofNat (extend (extend (a.toNat % 16) b) c)
            else match rest with
              | d :: _ => Char.ofNat (extend (extend (extend (a.toNat % 8) b) c) d)
              | [] => '\x00'
          | [] => '\x00'
      | [] => '\x00'
  | [] => '\x00'

/-- What follows a given beginning. -/
def dropStart? : List UInt8 → List UInt8 → Option (List UInt8)
  | [], bytes => some bytes
  | _ :: _, [] => none
  | x :: start, y :: bytes => if x = y then dropStart? start bytes else none

theorem dropStart?_eq_some {start bytes rest : List UInt8}
    (h : dropStart? start bytes = some rest) : bytes = start ++ rest := by
  fun_induction dropStart? start bytes with
  | case1 bytes => simpa using h
  | case2 => simp at h
  | case3 x start bytes ih => simp [ih h]
  | case4 => simp at h

/-- The first character of a text and the bytes after it. The candidate counts if the bytes begin
with its encoding. -/
def decodeHead? (bytes : List UInt8) : Option (Char × List UInt8) :=
  (dropStart? (String.utf8EncodeChar (candidate bytes)) bytes).map fun rest =>
    (candidate bytes, rest)

theorem decodeHead?_eq_some {bytes rest : List UInt8} {c : Char}
    (h : decodeHead? bytes = some (c, rest)) : bytes = String.utf8EncodeChar c ++ rest := by
  obtain ⟨r, hr, heq⟩ := Option.map_eq_some_iff.1 h
  cases heq
  exact dropStart?_eq_some hr

theorem encodeChar_ne_nil (c : Char) : String.utf8EncodeChar c ≠ [] := by
  intro h
  have := congrArg List.length h
  rw [String.length_utf8EncodeChar] at this
  have hpos := c.utf8Size_pos
  simp at this
  omega

theorem length_lt_of_decodeHead? {bytes rest : List UInt8} {c : Char}
    (h : decodeHead? bytes = some (c, rest)) : rest.length < bytes.length := by
  have hlen := congrArg List.length (decodeHead?_eq_some h)
  have hpos := List.length_pos_iff.2 (encodeChar_ne_nil c)
  rw [List.length_append] at hlen
  omega

/-- The characters that bytes encode, appended to those already read. -/
def decodeAux (bytes : List UInt8) (read : List Char) : Option (List Char) :=
  if bytes = [] then some read.reverse
  else match h : decodeHead? bytes with
    | none => none
    | some (c, rest) =>
      have := length_lt_of_decodeHead? h
      decodeAux rest (c :: read)
termination_by bytes.length

/-- The characters that bytes encode. -/
def decodeChars? (bytes : List UInt8) : Option (List Char) := decodeAux bytes []

/-- The text that bytes encode. -/
def decode? (bytes : List UInt8) : Option String := (decodeChars? bytes).map String.ofList

/-- The number of bytes in the ill-formed stretch at the front of bytes that begin with no
character: the longest beginning of some character's encoding, and at least one byte. -/
def illFormedLength : List UInt8 → Nat
  | [] => 0
  | a :: rest =>
    -- the second byte tells overlong forms, surrogates and numbers that are too large
    let second (b : UInt8) : Bool :=
      if a = 0xE0 then 0xA0 ≤ b && b ≤ 0xBF
      else if a = 0xED then 0x80 ≤ b && b ≤ 0x9F
      else if a = 0xF0 then 0x90 ≤ b && b ≤ 0xBF
      else if a = 0xF4 then 0x80 ≤ b && b ≤ 0x8F
      else 0x80 ≤ b && b ≤ 0xBF
    let later (b : UInt8) : Bool := 0x80 ≤ b && b ≤ 0xBF
    if 0xE0 ≤ a && a ≤ 0xF4 then
      match rest with
      | b :: c :: _ => if !second b then 1 else if 0xF0 ≤ a && later c then 3 else 2
      | [b] => if second b then 2 else 1
      | [] => 1
    else 1

/-- Reads text, writing one replacement character for each ill-formed stretch; the fuel bounds the
number of characters. -/
def decodeLossyAux : Nat → List UInt8 → List Char → List Char
  | 0, _, read => read.reverse
  | _ + 1, [], read => read.reverse
  | fuel + 1, bytes, read =>
    match decodeHead? bytes with
    | some (c, rest) => decodeLossyAux fuel rest (c :: read)
    | none => decodeLossyAux fuel (bytes.drop (illFormedLength bytes)) (Char.ofNat 0xFFFD :: read)

/-- Reads text, writing one replacement character for each ill-formed stretch. -/
def decodeLossy (bytes : List UInt8) : String :=
  String.ofList (decodeLossyAux bytes.length bytes [])

end Isolation.Text.Utf8
