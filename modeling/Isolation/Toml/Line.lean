import Isolation.Toml.Numeral
import Isolation.Toml.Quoted
import Isolation.Toml.Table

/-!
# Lines of configuration documents

A document is a sequence of headers and of keys with their values. Arrays may go over several lines,
tables that are written as values may not.

## Main definitions

* `Toml.Line` — headers and keys with values
* `Toml.path?`, `Toml.item?` — dotted keys and values
* `Toml.lines?` — the lines of a document
-/

namespace Isolation.Toml

/-- A line that says something: a header of a table, a header of one more element of an array of
tables, or a key with its value. The last key of a path comes apart from those before it. -/
inductive Line
  | table (path : List String) (key : String)
  | element (path : List String) (key : String)
  | entry (path : List String) (key : String) (item : Item)

/-- Whether a character may stand in a key without quotes. -/
def isKeyChar (c : Char) : Bool := c.isAlphanum || c = '_' || c = '-'

/-- A key at the front, and what follows it. -/
def key? (cs : List Char) : Option (String × List Char) :=
  match quotedKey? cs with
  | some result => some result
  | none =>
    let taken := cs.takeWhile isKeyChar
    if taken = [] then none else some (String.ofList taken, cs.dropWhile isKeyChar)

/-- A dotted key at the front, with the last key apart; blanks may surround the dots. -/
def path? : Nat → List Char → Option ((List String × String) × List Char)
  | 0, _ => none
  | fuel + 1, cs => do
    let (key, rest) ← key? (skipBlanks cs)
    match skipBlanks rest with
    | '.' :: rest =>
      let ((path, last), rest) ← path? fuel rest
      return ((key :: path, last), rest)
    | rest => return (([], key), rest)

/-- Drops a comment. -/
def skipComment : List Char → List Char
  | '#' :: rest => rest.dropWhile isVisible
  | cs => cs

/-- Drops blanks, line endings and comments, each of which goes up to the end of its line. -/
def skipLines : Nat → List Char → List Char
  | 0, cs => cs
  | fuel + 1, cs =>
    match skipComment (skipBlanks cs) with
    | [] => []
    | c :: rest =>
      match newline? (c :: rest) with
      | some rest => skipLines fuel rest
      | none => c :: rest

mutual

/-- A value at the front, and what follows it. -/
def item? : Nat → List Char → Option (Item × List Char)
  | 0, _ => none
  | fuel + 1, cs =>
    match cs with
    | '[' :: rest => items? fuel rest []
    | '{' :: rest =>
      match skipBlanks rest with
      | '}' :: rest => some (.table .inline [], rest)
      | _ => inlineEntries? fuel rest []
    | 't' :: 'r' :: 'u' :: 'e' :: rest => some (.bool true, rest)
    | 'f' :: 'a' :: 'l' :: 's' :: 'e' :: rest => some (.bool false, rest)
    | _ =>
      match string? cs with
      | some (text, rest) => some (.string text, rest)
      | none => (skipPlain? cs).map fun rest => (.plain, rest)

/-- The rest of an array after the items already read, last first. A comma may follow the last. -/
def items? : Nat → List Char → List Item → Option (Item × List Char)
  | 0, _, _ => none
  | fuel + 1, cs, found =>
    match skipLines cs.length cs with
    | ']' :: rest => some (.array found.reverse, rest)
    | cs => do
      let (item, rest) ← item? fuel cs
      match skipLines rest.length rest with
      | ',' :: rest => items? fuel rest (item :: found)
      | ']' :: rest => return (.array (item :: found).reverse, rest)
      | _ => none

/-- The rest of an inline table that has at least one more entry. -/
def inlineEntries? : Nat → List Char → List (String × Item) → Option (Item × List Char)
  | 0, _, _ => none
  | fuel + 1, cs, found => do
    let ((path, key), rest) ← path? (cs.length + 1) cs
    match rest with
    | '=' :: rest =>
      let (item, rest) ← item? fuel (skipBlanks rest)
      let found ← addEntry? path key item .inline found
      match skipBlanks rest with
      | ',' :: rest => inlineEntries? fuel rest found
      | '}' :: rest => return (.table .inline found, rest)
      | _ => none
    | _ => none

end

/-- The end of a line that said something: blanks and a comment at most. -/
def endLine? (cs : List Char) : Option (List Char) :=
  match skipComment (skipBlanks cs) with
  | [] => some []
  | cs => newline? cs

/-- The line at the front, if it says something, and what follows it. -/
def line? (cs : List Char) : Option (Line × List Char) := do
  let fuel := cs.length + 1
  match cs with
  | '[' :: '[' :: rest =>
    let ((path, key), rest) ← path? fuel rest
    match rest with
    | ']' :: ']' :: rest => return (.element path key, ← endLine? rest)
    | _ => none
  | '[' :: rest =>
    let ((path, key), rest) ← path? fuel rest
    match rest with
    | ']' :: rest => return (.table path key, ← endLine? rest)
    | _ => none
  | _ =>
    let ((path, key), rest) ← path? fuel cs
    match rest with
    | '=' :: rest =>
      let (item, rest) ← item? fuel (skipBlanks rest)
      return (.entry path key item, ← endLine? rest)
    | _ => none

/-- The lines that say something, after those already read, last first. -/
def linesFrom? : Nat → List Char → List Line → Option (List Line)
  | 0, _, _ => none
  | fuel + 1, cs, found =>
    match skipLines (cs.length + 1) cs with
    | [] => some found.reverse
    | cs => do
      let (line, rest) ← line? cs
      linesFrom? fuel rest (line :: found)

/-- The lines of a document that say something. The text may begin with a byte order mark. -/
def lines? (text : String) : Option (List Line) :=
  let cs := match text.toList with
    | '\uFEFF' :: rest => rest
    | cs => cs
  linesFrom? (cs.length + 1) cs []

end Isolation.Toml
