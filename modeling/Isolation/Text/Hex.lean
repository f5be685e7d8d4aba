/-!
# Hexadecimal text

Bytes and numbers in lower-case hexadecimal digits.

## Main definitions

* `Hex.digit`, `Hex.value?` — a digit and its value
* `Hex.encode`, `Hex.decode?` — two digits for each byte

## Main results

* `Hex.value?_digit`
-/

namespace Isolation.Text.Hex

/-- The digit for a value below sixteen. -/
def digit (n : Nat) : Char :=
  if n < 10 then Char.ofNat (48 + n) else Char.ofNat (87 + n)

/-- The value of a digit in either case. -/
def value? (c : Char) : Option Nat :=
  if '0' ≤ c ∧ c ≤ '9' then some (c.toNat - 48)
  else if 'a' ≤ c ∧ c ≤ 'f' then some (c.toNat - 87)
  else if 'A' ≤ c ∧ c ≤ 'F' then some (c.toNat - 55)
  else none

theorem value?_digit : ∀ n < 16, value? (digit n) = some n := by decide

/-- Two digits for each byte, the high one first. -/
def encode (bytes : List UInt8) : String :=
  String.ofList (bytes.flatMap fun b => [digit (b.toNat / 16), digit (b.toNat % 16)])

/-- The bytes that pairs of digits stand for. -/
def decodeChars? : List Char → Option (List UInt8)
  | [] => some []
  | [_] => none
  | high :: low :: rest => do
    let h ← value? high
    let l ← value? low
    let bytes ← decodeChars? rest
    return UInt8.ofNat (16 * h + l) :: bytes

/-- The bytes that a text of digit pairs stands for. -/
def decode? (text : String) : Option (List UInt8) := decodeChars? text.toList

/-- A number in as many digits as it needs. -/
def ofNat (n : Nat) : String := String.ofList (Nat.toDigits 16 n)

end Isolation.Text.Hex
