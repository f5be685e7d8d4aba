import Isolation.Text.Hex

/-!
# Numbers and times of configuration documents

Integers, floating-point numbers, dates and times are recognised by their form. Nothing in a policy
takes a number, so that only their extent counts.

## Main definitions

* `Toml.skipPlain?` — what follows a number, a date or a time at the front
-/

namespace Isolation.Toml

open Isolation.Text

/-- Digits of a base at the front, where single underscores may stand between digits; none if there
is no digit or an underscore out of place. The digits come first, in their order. -/
def digits? (base : Nat) (cs : List Char) : Option (List Nat × List Char) :=
  let isDigit (c : Char) : Bool := ((Hex.value? c).filter (· < base)).isSome
  let taken := cs.takeWhile fun c => isDigit c || c = '_'
  let groups := taken.splitOn '_'
  if groups.all (· ≠ []) then some (taken.filterMap Hex.value?, cs.drop taken.length) else none

/-- The number that digits stand for. -/
def digitsNumber (base : Nat) (digits : List Nat) : Nat :=
  digits.foldl (fun n d => base * n + d) 0

/-- Exactly `count` decimal digits with a number in a range. -/
def field? (count low high : Nat) (cs : List Char) : Option (Nat × List Char) :=
  let taken := cs.take count
  if taken.length = count ∧ taken.all Char.isDigit then
    let n := Nat.ofDigitChars 10 taken 0
    if low ≤ n ∧ n ≤ high then some (n, cs.drop count) else none
  else none

/-- A given character at the front. -/
def skipChar? (c : Char) : List Char → Option (List Char)
  | d :: rest => if c = d then some rest else none
  | [] => none

/-- The number of days of a month. -/
def daysOf (year month : Nat) : Nat :=
  if month = 2 then
    if year % 4 = 0 ∧ (year % 100 ≠ 0 ∨ year % 400 = 0) then 29 else 28
  else if [4, 6, 9, 11].contains month then 30 else 31

/-- What follows a date. -/
def skipDate? (cs : List Char) : Option (List Char) := do
  let (year, cs) ← field? 4 0 9999 cs
  let (month, cs) ← field? 2 1 12 (← skipChar? '-' cs)
  let (_, cs) ← field? 2 1 (daysOf year month) (← skipChar? '-' cs)
  return cs

/-- What follows a time of the day. -/
def skipTime? (cs : List Char) : Option (List Char) := do
  let (_, cs) ← field? 2 0 23 cs
  let (_, cs) ← field? 2 0 59 (← skipChar? ':' cs)
  let (_, cs) ← field? 2 0 60 (← skipChar? ':' cs)
  match cs with
  | '.' :: rest => if rest.head?.any Char.isDigit then return rest.dropWhile Char.isDigit else none
  | _ => return cs

/-- What follows an offset from universal time, if there is one. -/
def skipOffset (cs : List Char) : List Char :=
  let signed (rest : List Char) : Option (List Char) := do
    let (_, rest) ← field? 2 0 23 rest
    let (_, rest) ← field? 2 0 59 (← skipChar? ':' rest)
    return rest
  match cs with
  | 'Z' :: rest => rest
  | 'z' :: rest => rest
  | '+' :: rest => (signed rest).getD cs
  | '-' :: rest => (signed rest).getD cs
  | _ => cs

/-- What follows a date, a time, or both. -/
def skipDateTime? (cs : List Char) : Option (List Char) :=
  match skipDate? cs with
  | none => skipTime? cs
  | some rest =>
    match rest with
    | c :: after =>
      if c = 'T' ∨ c = 't' ∨ c = ' ' then
        match skipTime? after with
        | some rest => some (skipOffset rest)
        -- the blank may stand behind a date without a time
        | none => some rest
      else some rest
    | [] => some []

/-- A sign at the front, and whether it is negative. -/
def skipSign : List Char → Bool × List Char
  | '+' :: rest => (false, rest)
  | '-' :: rest => (true, rest)
  | cs => (false, cs)

/-- What follows an exponent, if there is one. -/
def skipExponent? (cs : List Char) : Option (List Char) :=
  match cs with
  | c :: rest =>
    if c = 'e' ∨ c = 'E' then (digits? 10 (skipSign rest).2).map Prod.snd else some cs
  | [] => some []

/-- What follows an integer in decimal digits, or a floating-point number that begins like one. An
integer has 64 bits, and a leading zero stands alone. -/
def skipDecimal? (cs : List Char) : Option (List Char) := do
  let (negative, unsigned) := skipSign cs
  let (digits, rest) ← match unsigned with
    | '0' :: rest => some ([0], rest)
    | _ => digits? 10 unsigned
  match rest with
  -- a floating-point number is never too large
  | '.' :: after => skipExponent? (← digits? 10 after).2
  | 'e' :: _ => skipExponent? rest
  | 'E' :: _ => skipExponent? rest
  | _ =>
    if digitsNumber 10 digits < 2 ^ 63 + (if negative then 1 else 0) then return rest else none

/-- What follows an integer in another base. -/
def skipBased? (base : Nat) (cs : List Char) : Option (List Char) := do
  let (digits, rest) ← digits? base cs
  if digitsNumber base digits < 2 ^ 63 then return rest else none

/-- What follows infinity or no number. -/
def skipSpecial? (cs : List Char) : Option (List Char) :=
  match (skipSign cs).2 with
  | 'i' :: 'n' :: 'f' :: rest => some rest
  | 'n' :: 'a' :: 'n' :: rest => some rest
  | _ => none

/-- What follows a number, a date or a time. -/
def skipPlain? (cs : List Char) : Option (List Char) :=
  match skipSpecial? cs with
  | some rest => some rest
  | none =>
    match skipDateTime? cs with
    | some rest => some rest
    | none =>
      match cs with
      | '0' :: 'x' :: rest => skipBased? 16 rest
      | '0' :: 'o' :: rest => skipBased? 8 rest
      | '0' :: 'b' :: rest => skipBased? 2 rest
      | _ => skipDecimal? cs

end Isolation.Toml
