import Isolation.Text.Hex

/-!
# Strings of configuration documents

Strings stand in double quotes, where a backslash escapes, or in single quotes, where nothing does.
Three quotes in a row open a string that may go over several lines and may hold one or two quotes in
a row.

## Main definitions

* `Toml.string?` — a string at the front of some characters
* `Toml.quotedKey?` — a quoted key, which stays on its line
-/

namespace Isolation.Toml

open Isolation.Text

/-- A line ending at the front, and what follows it. -/
def newline? : List Char → Option (List Char)
  | '\n' :: rest => some rest
  | '\r' :: '\n' :: rest => some rest
  | _ => none

/-- Whether a character is a blank within a line. -/
def isBlank (c : Char) : Bool := c = ' ' || c = '\t'

/-- Drops blanks within a line. -/
def skipBlanks (cs : List Char) : List Char := cs.dropWhile isBlank

/-- Whether a character may stand on a line: no control character but the tabulator. -/
def isVisible (c : Char) : Bool := c = '\t' || (0x20 ≤ c.toNat && c.toNat ≠ 0x7F)

/-- Drops blanks and line endings; the fuel bounds their number. -/
def skipSpace : Nat → List Char → List Char
  | 0, cs => cs
  | fuel + 1, cs =>
    match cs with
    | c :: rest =>
      if isBlank c then skipSpace fuel rest
      else match newline? cs with
        | some rest => skipSpace fuel rest
        | none => cs
    | [] => []

/-- The number that the first `count` hexadecimal digits stand for. -/
def hexNumber? : Nat → Nat → List Char → Option (Nat × List Char)
  | 0, n, cs => some (n, cs)
  | _ + 1, _, [] => none
  | count + 1, n, c :: cs => do hexNumber? count (16 * n + (← Hex.value? c)) cs

/-- The character of a number, if there is one. -/
def character? (n : Nat) : Option Char :=
  if n.isValidChar then some (Char.ofNat n) else none

/-- The escape after a backslash. -/
def escaped? : List Char → Option (Char × List Char)
  | [] => none
  | c :: rest =>
    if c = 'b' then some ('\x08', rest)
    else if c = 'f' then some ('\x0c', rest)
    else if c = 'n' then some ('\n', rest)
    else if c = 'r' then some ('\r', rest)
    else if c = 't' then some ('\t', rest)
    else if c = '"' ∨ c = '\\' then some (c, rest)
    else if c = 'u' ∨ c = 'U' then do
      let (n, rest) ← hexNumber? (if c = 'u' then 4 else 8) 0 rest
      return (← character? n, rest)
    else none

/-- The rest of a string on one line after its opening quote; only double quotes know escapes. -/
def lineString? (quote : Char) : Nat → List Char → Option (List Char × List Char)
  | 0, _ => none
  | _ + 1, [] => none
  | fuel + 1, c :: rest =>
    if c = quote then some ([], rest)
    else if c = '\\' ∧ quote = '"' then do
      let (c, rest) ← escaped? rest
      let (cs, rest) ← lineString? quote fuel rest
      return (c :: cs, rest)
    else if isVisible c then do
      let (cs, rest) ← lineString? quote fuel rest
      return (c :: cs, rest)
    else none

/-- What a backslash at the end of a line joins: blanks, the line ending and all space after it. -/
def joinedLine? (cs : List Char) : Option (List Char) :=
  (newline? (skipBlanks cs)).map fun rest => skipSpace rest.length rest

/-- The rest of a string over several lines after its opening quotes. It ends with three quotes,
which one or two quotes of its content may precede. -/
def blockString? (quote : Char) : Nat → List Char → Option (List Char × List Char)
  | 0, _ => none
  | _ + 1, [] => none
  | fuel + 1, c :: rest =>
    if c = quote then
      let run := (c :: rest).takeWhile (· = quote)
      let after := (c :: rest).dropWhile (· = quote)
      if run.length < 3 then do
        let (cs, rest) ← blockString? quote fuel after
        return (run ++ cs, rest)
      else
        let kept := min (run.length - 3) 2
        some (run.take kept, run.drop (kept + 3) ++ after)
    else if c = '\\' ∧ quote = '"' then
      match joinedLine? rest with
      | some rest => blockString? quote fuel rest
      | none => do
        let (c, rest) ← escaped? rest
        let (cs, rest) ← blockString? quote fuel rest
        return (c :: cs, rest)
    else match newline? (c :: rest) with
      | some rest => do
        let (cs, rest) ← blockString? quote fuel rest
        return ('\n' :: cs, rest)
      | none =>
        if isVisible c then do
          let (cs, rest) ← blockString? quote fuel rest
          return (c :: cs, rest)
        else none

/-- A string at the front, and what follows it. A line ending right after three opening quotes does
not belong to the string. -/
def string? (cs : List Char) : Option (String × List Char) :=
  let read (quote : Char) (rest : List Char) : Option (List Char × List Char) :=
    match rest with
    | a :: b :: after =>
      if a = quote ∧ b = quote then
        blockString? quote (cs.length + 1) ((newline? after).getD after)
      else lineString? quote (cs.length + 1) rest
    | _ => lineString? quote (cs.length + 1) rest
  match cs with
  | '"' :: rest => (read '"' rest).map fun (text, rest) => (String.ofList text, rest)
  | '\'' :: rest => (read '\'' rest).map fun (text, rest) => (String.ofList text, rest)
  | _ => none

/-- A quoted key at the front, and what follows it. -/
def quotedKey? (cs : List Char) : Option (String × List Char) :=
  match cs with
  | '"' :: rest =>
    (lineString? '"' (cs.length + 1) rest).map fun (text, rest) => (String.ofList text, rest)
  | '\'' :: rest =>
    (lineString? '\'' (cs.length + 1) rest).map fun (text, rest) => (String.ofList text, rest)
  | _ => none

end Isolation.Toml
