import Isolation.Text.Hex
import Isolation.Text.Utf8

/-!
# Strings in documents

What stands between the quotes of a string: bytes in which a backslash begins an escape. Writing
escapes only what has to be; reading knows every escape and puts pairs of surrogates together.

## Main definitions

* `Json.escape`, `Json.unescape?` — characters with and without escapes
* `Json.quoted`, `Json.unquoted?` — the bytes between the quotes of a text
-/

namespace Isolation.Json

open Isolation.Text

/-- The letter that escapes a character, if there is one. -/
def shortEscape? (c : Char) : Option Char :=
  if c = '"' then some '"'
  else if c = '\\' then some '\\'
  else if c = '\x08' then some 'b'
  else if c = '\x0c' then some 'f'
  else if c = '\n' then some 'n'
  else if c = '\r' then some 'r'
  else if c = '\t' then some 't'
  else none

/-- A character with its escape: a letter if there is one for it, else four digits if it is a
control character, else nothing. -/
def escapeChar (c : Char) : List Char :=
  match shortEscape? c with
  | some letter => ['\\', letter]
  | none =>
    if c.toNat < 0x20 then
      ['\\', 'u', '0', '0', Hex.digit (c.toNat / 16), Hex.digit (c.toNat % 16)]
    else [c]

/-- Characters with their escapes. -/
def escape (chars : List Char) : List Char := chars.flatMap escapeChar

/-- The character that a letter after a backslash stands for. -/
def ofEscapeLetter? (letter : Char) : Option Char :=
  if letter = '"' then some '"'
  else if letter = '\\' then some '\\'
  else if letter = '/' then some '/'
  else if letter = 'b' then some '\x08'
  else if letter = 'f' then some '\x0c'
  else if letter = 'n' then some '\n'
  else if letter = 'r' then some '\r'
  else if letter = 't' then some '\t'
  else none

/-- The number that four hexadecimal digits stand for. -/
def ofDigits? (a b c d : Char) : Option Nat := do
  let a ← Hex.value? a
  let b ← Hex.value? b
  let c ← Hex.value? c
  let d ← Hex.value? d
  return ((a * 16 + b) * 16 + c) * 16 + d

/-- Characters with their escapes taken away. A surrogate counts only in a pair. -/
def unescape? : List Char → Option (List Char)
  | [] => some []
  | c :: rest =>
    if c ≠ '\\' then (unescape? rest).map (c :: ·)
    else match rest with
      | [] => none
      | letter :: rest =>
        match ofEscapeLetter? letter with
        | some c => (unescape? rest).map (c :: ·)
        | none =>
          if letter ≠ 'u' then none
          else match rest with
            | a :: b :: c :: d :: rest =>
              match ofDigits? a b c d with
              | none => none
              | some unit =>
                if 0xD800 ≤ unit ∧ unit < 0xDC00 then
                  match rest with
                  | '\\' :: 'u' :: a :: b :: c :: d :: rest =>
                    match ofDigits? a b c d with
                    | none => none
                    | some low =>
                      if 0xDC00 ≤ low ∧ low < 0xE000 then
                        let n := 0x10000 + (unit - 0xD800) * 0x400 + (low - 0xDC00)
                        (unescape? rest).map (Char.ofNat n :: ·)
                      else none
                  | _ => none
                else if 0xDC00 ≤ unit ∧ unit < 0xE000 then none
                else (unescape? rest).map (Char.ofNat unit :: ·)
            | _ => none

/-- The bytes between the quotes of a text. -/
def quoted (text : String) : List UInt8 := Utf8.encodeChars (escape text.toList)

/-- The text that stands between quotes. -/
def unquoted? (raw : List UInt8) : Option String :=
  ((Utf8.decodeChars? raw).bind unescape?).map String.ofList

end Isolation.Json
