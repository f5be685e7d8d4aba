import Isolation.Binary64.Shortest
import Isolation.Text.Numeral

/-!
# Numbers as text

Finite numbers are shown with the digits of their shortest decimal and never with an exponent.

## Main definitions

* `Binary64.decimal` — the shortest decimal of a finite number
* `Binary64.display` — the text of any number
-/

namespace Isolation

namespace Decimal

/-- The digits as text. -/
def digitChars (x : Decimal) : List Char := Text.natDigits x.digits

/-- Digits with a point where it belongs, and none after an integer. -/
def positional (x : Decimal) : List Char :=
  let ds := x.digitChars
  if 0 ≤ x.exponent then ds ++ List.replicate x.exponent.toNat '0'
  else
    let places := (-x.exponent).toNat
    if places < ds.length then ds.take (ds.length - places) ++ '.' :: ds.drop (ds.length - places)
    else '0' :: '.' :: List.replicate (places - ds.length) '0' ++ ds

/-- The power of ten of the first digit. -/
def leading (x : Decimal) : Int := x.exponent + ((x.digitChars.length : Int) - 1)

end Decimal

namespace Binary64

/-- The sign as text; zero has one too. -/
def signChars (x : Binary64) : List Char := if x.isNegative then ['-'] else []

/-- The shortest decimal of a finite number without its sign. -/
def decimal (tie : Tie) (x : Binary64) : Decimal :=
  if x.significand = 0 then ⟨0, 0⟩ else shortest tie x.significand x.scale

/-- Plain text: shortest digits, never an exponent, no point after an integer. -/
def display (x : Binary64) : String :=
  if x.isNaN then "NaN"
  else if x.isFinite then String.ofList (x.signChars ++ (x.decimal .upward).positional)
  else if x.isNegative then "-inf" else "inf"

end Binary64

end Isolation
