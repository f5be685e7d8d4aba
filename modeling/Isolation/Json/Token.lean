import Isolation.Json.Number
import Isolation.Json.Quoted

/-!
# Tokens of documents

The words that a document is made of. Of a string only its extent is found and its escapes are
checked for their form; what it means is looked at when it is read.

## Main definitions

* `Json.Token` — the tokens
* `Token.render` — a token as it is written
* `Token.scan?` — the tokens of a text, with blanks between them dropped
-/

namespace Isolation.Json

open Isolation.Text

/-- A word of a document. A string holds the bytes between its quotes. -/
inductive Token
  | openArray
  | closeArray
  | openObject
  | closeObject
  | comma
  | colon
  | null
  | bool (b : Bool)
  | number (n : Number)
  | string (raw : List UInt8)
  deriving DecidableEq, Repr

namespace Token

/-- A token as it is written. -/
def render : Token → List UInt8
  | openArray => [0x5B]
  | closeArray => [0x5D]
  | openObject => [0x7B]
  | closeObject => [0x7D]
  | comma => [0x2C]
  | colon => [0x3A]
  | null => Utf8.encode "null"
  | bool true => Utf8.encode "true"
  | bool false => Utf8.encode "false"
  | number n => n.render
  | string raw => 0x22 :: raw ++ [0x22]

/-- Whether a byte may stand between tokens. -/
def isBlank (b : UInt8) : Bool := b = 0x20 || b = 0x09 || b = 0x0A || b = 0x0D

/-- Whether a byte is a hexadecimal digit. -/
def isHexDigit (b : UInt8) : Bool := (Hex.value? (Char.ofNat b.toNat)).isSome

/-- Whether a byte escapes a character by one letter. -/
def isEscapeLetter (b : UInt8) : Bool := (ofEscapeLetter? (Char.ofNat b.toNat)).isSome

/-- The bytes of a string up to its closing quote, and what follows the quote. A backslash escapes
what comes after it, and control characters do not stand in strings. -/
def scanString? : List UInt8 → Option (List UInt8 × List UInt8)
  | [] => none
  | b :: rest =>
    if b = 0x22 then some ([], rest)
    else if b < 0x20 then none
    else if b ≠ 0x5C then (scanString? rest).map fun (raw, after) => (b :: raw, after)
    else match rest with
      | [] => none
      | e :: rest =>
        if isEscapeLetter e then (scanString? rest).map fun (raw, after) => (b :: e :: raw, after)
        else if e ≠ 0x75 then none
        else match rest with
          | h₁ :: h₂ :: h₃ :: h₄ :: rest =>
            if [h₁, h₂, h₃, h₄].all isHexDigit then
              (scanString? rest).map fun (raw, after) =>
                (b :: e :: h₁ :: h₂ :: h₃ :: h₄ :: raw, after)
            else none
          | _ => none

/-- A word at the front that stands for a token. -/
def scanWord? (word : String) (token : Token) (bytes : List UInt8) :
    Option (Token × List UInt8) :=
  (Utf8.dropStart? (Utf8.encode word) bytes).map fun rest => (token, rest)

/-- The token at the front, and what follows it. -/
def next? : List UInt8 → Option (Token × List UInt8)
  | [] => none
  | b :: rest =>
    if b = 0x5B then some (openArray, rest)
    else if b = 0x5D then some (closeArray, rest)
    else if b = 0x7B then some (openObject, rest)
    else if b = 0x7D then some (closeObject, rest)
    else if b = 0x2C then some (comma, rest)
    else if b = 0x3A then some (colon, rest)
    else if b = 0x22 then (scanString? rest).map fun (raw, after) => (string raw, after)
    else if b = 0x6E then scanWord? "null" null (b :: rest)
    else if b = 0x74 then scanWord? "true" (bool true) (b :: rest)
    else if b = 0x66 then scanWord? "false" (bool false) (b :: rest)
    else (Number.scan? (b :: rest)).map fun (n, after) => (number n, after)

/-- The tokens of a text after those already found, last first. Every token takes at least one byte,
so that the fuel is enough if it is above the number of bytes. -/
def scanFrom? : Nat → List UInt8 → List Token → Option (List Token)
  | 0, _, _ => none
  | _ + 1, [], found => some found.reverse
  | fuel + 1, b :: rest, found =>
    if isBlank b then scanFrom? fuel rest found
    else match next? (b :: rest) with
      | some (token, rest) => scanFrom? fuel rest (token :: found)
      | none => none

/-- The tokens of a text. -/
def scan? (bytes : List UInt8) : Option (List Token) := scanFrom? (bytes.length + 1) bytes []

end Token

end Isolation.Json
