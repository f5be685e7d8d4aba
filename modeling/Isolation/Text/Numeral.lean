/-!
# Numerals

Integers in decimal digits.

## Main definitions

* `Text.natDigits`, `Text.intDigits` — the digits of a number, with a sign if it is negative
-/

namespace Isolation.Text

/-- The decimal digits of a natural number. -/
def natDigits (n : Nat) : List Char := Nat.toDigits 10 n

/-- The decimal digits of an integer, after a sign if it is negative. -/
def intDigits (n : Int) : List Char :=
  if n < 0 then '-' :: natDigits n.natAbs else natDigits n.natAbs

/-- A natural number as text. -/
def ofNat (n : Nat) : String := String.ofList (natDigits n)

/-- An integer as text. -/
def ofInt (n : Int) : String := String.ofList (intDigits n)

theorem isDigit_of_mem_natDigits {n : Nat} {c : Char} (h : c ∈ natDigits n) : c.isDigit :=
  Nat.isDigit_of_mem_toDigits (by decide) (by decide) h

end Isolation.Text
