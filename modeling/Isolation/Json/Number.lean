import Isolation.Binary64.Text

/-!
# Numbers in documents

A number as it is written, with its parts kept apart, and what it means as an integer or as a
floating-point number. Floating-point reading collects the digits in a 64-bit word and scales it by
one power of ten, each step rounded; it is not the nearest number in every case.

## Main definitions

* `Json.Number` — the parts of a number
* `Number.scan?` — splits a number off the front of some bytes
* `Number.toNat?`, `Number.toInt?` — integers; a number with a point or an exponent is none
* `Number.toFloat?` — floating-point numbers; one that is too large is none
* `Number.ofInt`, `Number.ofFloat?` — how numbers are written
-/

namespace Isolation.Json

/-- A number as it is written: digits are bytes, an empty fraction is no fraction, and the exponent
has a sign (whether it is negative) and digits. -/
structure Number where
  negative : Bool
  whole : List UInt8
  fraction : List UInt8
  exponent : Option (Bool × List UInt8)
  deriving DecidableEq, Repr

/-- Whether a byte is a decimal digit. -/
def isDigit (b : UInt8) : Bool := 0x30 ≤ b && b ≤ 0x39

/-- The value of a decimal digit. -/
def digitValue (b : UInt8) : Nat := b.toNat - 0x30

/-- Digits at the front, and what follows. -/
def spanDigits (bytes : List UInt8) : List UInt8 × List UInt8 :=
  (bytes.takeWhile isDigit, bytes.dropWhile isDigit)

namespace Number

/-- A fraction at the front, if there is a point; it must have a digit. -/
def scanFraction? : List UInt8 → Option (List UInt8 × List UInt8)
  | 0x2E :: rest =>
    let (digits, rest) := spanDigits rest
    if digits = [] then none else some (digits, rest)
  | bytes => some ([], bytes)

/-- The digits of an exponent, of which there must be one. -/
def scanExponentDigits? (negative : Bool) (bytes : List UInt8) :
    Option (Option (Bool × List UInt8) × List UInt8) :=
  let (digits, rest) := spanDigits bytes
  if digits = [] then none else some (some (negative, digits), rest)

/-- An exponent at the front, if there is its letter. -/
def scanExponent? : List UInt8 → Option (Option (Bool × List UInt8) × List UInt8)
  | b :: rest =>
    if b = 0x65 ∨ b = 0x45 then
      match rest with
      | 0x2B :: rest => scanExponentDigits? false rest
      | 0x2D :: rest => scanExponentDigits? true rest
      | rest => scanExponentDigits? false rest
    else some (none, b :: rest)
  | [] => some (none, [])

/-- A number without its sign at the front. A zero is never followed by more digits of the integer
part. -/
def scanUnsigned? (negative : Bool) (bytes : List UInt8) : Option (Number × List UInt8) := do
  let (whole, rest) ← match bytes with
    | 0x30 :: rest => some ([0x30], rest)
    | bytes =>
      let (digits, rest) := spanDigits bytes
      if digits = [] then none else some (digits, rest)
  let (fraction, rest) ← scanFraction? rest
  let (exponent, rest) ← scanExponent? rest
  return (⟨negative, whole, fraction, exponent⟩, rest)

/-- A number at the front, and what follows. -/
def scan? : List UInt8 → Option (Number × List UInt8)
  | 0x2D :: rest => scanUnsigned? true rest
  | bytes => scanUnsigned? false bytes

/-- The number as it is written. -/
def render (n : Number) : List UInt8 :=
  (if n.negative then [0x2D] else []) ++ n.whole ++
    (if n.fraction = [] then [] else 0x2E :: n.fraction) ++
    match n.exponent with
    | none => []
    | some (true, digits) => 0x65 :: 0x2D :: digits
    | some (false, digits) => 0x65 :: 0x2B :: digits

/-- The value of digits after those already read. -/
def digitsValue (digits : List UInt8) (read : Nat) : Nat :=
  digits.foldl (fun n b => 10 * n + digitValue b) read

/-- Whether the number is written as an integer. Zero with a sign is none. -/
def isInteger (n : Number) : Bool :=
  n.fraction = [] && n.exponent = none && !(n.negative && digitsValue n.whole 0 = 0)

/-- The integer that is written. -/
def toInt? (n : Number) : Option Int :=
  if n.isInteger then
    let value := digitsValue n.whole 0
    some (if n.negative then -(value : Int) else value)
  else none

/-- The natural number that is written. -/
def toNat? (n : Number) : Option Nat :=
  if n.isInteger && !n.negative then some (digitsValue n.whole 0) else none

/-- The greatest number in a 64-bit word. -/
def maxWord : Nat := 2 ^ 64 - 1

/-- Collects digits as long as they fit into a word; the number of the digits that are left over
comes second. -/
def collect (significand : Nat) : List UInt8 → Nat × Nat
  | [] => (significand, 0)
  | b :: digits =>
    let next := 10 * significand + digitValue b
    if next ≤ maxWord then collect next digits else (significand, digits.length + 1)

/-- The digits of a number in one word and the power of ten that belongs to it. Once a digit does
not fit, it and the digits after it are dropped, and those of the integer part count in the power.
The digits of the fraction that are kept count too. -/
def decimal (n : Number) : Nat × Int :=
  let (significand, dropped) := collect 0 n.whole
  let (significand', dropped') := collect significand n.fraction
  (significand', (dropped : Int) - ((n.fraction.length - dropped' : Nat) : Int))

/-- The greatest exponent whose digits are taken at their value. -/
def maxExponent : Nat := 2 ^ 31 - 1

/-- Clamps an exponent to the range in which it is counted. -/
def clampExponent (e : Int) : Int := max (-(2 ^ 31 : Nat)) (min e maxExponent)

/-- Scales by a power of ten: one rounded multiplication or division, after as many divisions by
the greatest power of the format as it takes to make the rest small. None if the result is too
large; the fuel bounds the divisions. -/
def scaleBy? : Nat → Binary64 → Int → Option Binary64
  | 0, x, _ => some x
  | fuel + 1, x, e =>
    if e.natAbs ≤ 308 then
      let power := Binary64.ofNat (10 ^ e.natAbs)
      if 0 ≤ e then
        let y := x.mul power
        if y.isFinite then some y else none
      else some (x.div power)
    else if x.significand = 0 then some x
    -- the digits are an integer, so that only zero stays in range
    else if 0 ≤ e then none
    else scaleBy? fuel (x.div (Binary64.ofNat (10 ^ 308))) (e + 308)

/-- The floating-point number that is written; none if it is too large. -/
def toFloat? (n : Number) : Option Binary64 :=
  let (significand, power) := n.decimal
  let magnitude :=
    match n.exponent with
    | none => scaleBy? 4 (Binary64.ofNat significand) power
    | some (negative, digits) =>
      let e := digitsValue digits 0
      -- such an exponent decides alone between zero and too large
      if maxExponent < e then
        if significand = 0 ∨ negative then some (Binary64.ofNat 0) else none
      else
        let e' := clampExponent (power + if negative then -(e : Int) else e)
        scaleBy? 4 (Binary64.ofNat significand) e'
  magnitude.map (Binary64.withSign n.negative)

/-- Decimal digits as bytes. -/
def digitBytes (digits : List Char) : List UInt8 := digits.map fun c => UInt8.ofNat c.toNat

/-- An integer as it is written. -/
def ofInt (n : Int) : Number := ⟨n < 0, digitBytes (Text.natDigits n.natAbs), [], none⟩

/-- A decimal as it is written. It is always marked as no integer, by a fraction or an exponent: the
point stands where it belongs if the first digit stands for `10 ^ e` with `-5 ≤ e < 16`, else after
the first digit. -/
def ofDecimal (negative : Bool) (x : Decimal) : Number :=
  let digits := digitBytes x.digitChars
  if -5 ≤ x.leading ∧ x.leading < 16 then
    let places := (-x.exponent).toNat
    if places = 0 then ⟨negative, digits ++ List.replicate x.exponent.toNat 0x30, [0x30], none⟩
    else if places < digits.length then
      ⟨negative, digits.take (digits.length - places), digits.drop (digits.length - places), none⟩
    else ⟨negative, [0x30], List.replicate (places - digits.length) 0x30 ++ digits, none⟩
  else
    ⟨negative, digits.take 1, digits.drop 1,
      some (decide (x.leading < 0), digitBytes (Text.natDigits x.leading.natAbs))⟩

/-- A finite number as it is written, in its shortest digits; infinities and NaN have no written
form. -/
def ofFloat? (x : Binary64) : Option Number :=
  if x.isFinite then some (ofDecimal x.isNegative (x.decimal .toEven)) else none

end Number

end Isolation.Json
