import Isolation.Text.Hex
import Isolation.Text.Printable

/-!
# Quoted text

Text in double quotes as it is shown in descriptions of values: quotes, backslashes and the common
controls are escaped by a letter, every other character that does not show as itself by its number.

## Main definitions

* `Text.quote` — a text in quotes
* `Text.quoteList` — several of them in brackets
-/

namespace Isolation.Text

/-- A character as it stands between the quotes. -/
def quoteChar (c : Char) : List Char :=
  if c = '\x00' then ['\\', '0']
  else if c = '\t' then ['\\', 't']
  else if c = '\r' then ['\\', 'r']
  else if c = '\n' then ['\\', 'n']
  else if c = '"' ∨ c = '\\' then ['\\', c]
  else if isPrintable c then [c]
  else ['\\', 'u', '\x7b'] ++ (Hex.ofNat c.toNat).toList ++ ['\x7d']

/-- A text in quotes. -/
def quote (text : String) : String :=
  String.ofList ('"' :: text.toList.flatMap quoteChar ++ ['"'])

/-- Items in brackets, separated by commas. -/
def bracket (items : List String) : String := "[" ++ ", ".intercalate items ++ "]"

/-- Quoted texts in brackets. -/
def quoteList (texts : List String) : String := bracket (texts.map quote)

end Isolation.Text
