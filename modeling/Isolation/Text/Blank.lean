/-!
# Blank characters

The characters with the Unicode property White_Space: they separate words and show nothing.

## Main definitions

* `Text.isBlank` — whether a character is blank
* `Text.isAllBlank` — whether a text holds nothing else
-/

namespace Isolation.Text

/-- Whether a character has the property White_Space. -/
def isBlank (c : Char) : Bool :=
  let n := c.toNat
  (9 ≤ n && n ≤ 13) || n = 0x20 || n = 0x85 || n = 0xA0 || n = 0x1680 ||
    (0x2000 ≤ n && n ≤ 0x200A) || n = 0x2028 || n = 0x2029 || n = 0x202F || n = 0x205F || n = 0x3000

/-- Whether a text holds nothing but blank characters. -/
def isAllBlank (text : String) : Bool := text.toList.all isBlank

end Isolation.Text
