import Isolation.Json.Node

/-!
# Shapes of typed documents

How documents are read as typed data. What is read may nest to a limit only, counted in levels that
remain; what is skipped is not looked into.

An array or an object takes a level of those that remain where it stands. A structure is an object
with the names of its fields as keys, where other keys are skipped, or an array of its fields in
order. A tagged union is an object with one key for the tag and one for the content, or an array of
the two. If the content stands before the tag, it cannot be read before the tag is known, so all of
it is checked first and nothing in it is skipped.

## Main definitions

* `Node.asString?` — the text of a string
* `Node.fields?` — the fields of a structure
* `Node.checked` — whether a document can be read without knowing what it is
* `Node.tagged?` — the tag and the content of a tagged union
-/

namespace Isolation.Json.Node

/-- The text of a string. -/
def asString? : Node → Option String
  | string raw => unquoted? raw
  | _ => none

/-- Pairs the names of fields with items, as far as there are any; none if there are too many. -/
def pairUp? : List String → List Node → Option (List (String × Node))
  | _, [] => some []
  | [], _ :: _ => none
  | name :: names, item :: items => (pairUp? names items).map ((name, item) :: ·)

/-- The members of an object whose keys are among some names; a key may not repeat. -/
def known? (names : List String) :
    List (List UInt8 × Node) → List (String × Node) → Option (List (String × Node))
  | [], found => some found.reverse
  | (raw, node) :: members, found => do
    let key ← unquoted? raw
    if names.contains key then
      if (found.map Prod.fst).contains key then none
      else known? names members ((key, node) :: found)
    else known? names members found

/-- The fields of a structure with given names in order, those that are there. -/
def fields? (names : List String) : Node → Option (List (String × Node))
  | object members => known? names members []
  | array items => pairUp? names items
  | _ => none

/-- The field of a name. -/
def field? (name : String) (fields : List (String × Node)) : Option Node :=
  (fields.find? fun field => field.1 = name).map Prod.snd

mutual

/-- Whether a document is sound to its leaves within the levels that remain: all strings and keys
are text, and no number is too large. -/
def checked (levels : Nat) : Node → Bool
  | null => true
  | bool _ => true
  | number n => n.toFloat?.isSome
  | string raw => (unquoted? raw).isSome
  | array items => 0 < levels && checkedItems (levels - 1) items
  | object members => 0 < levels && checkedMembers (levels - 1) members

/-- Whether all items are sound. -/
def checkedItems (levels : Nat) : List Node → Bool
  | [] => true
  | item :: items => item.checked levels && checkedItems levels items

/-- Whether all members are sound. -/
def checkedMembers (levels : Nat) : List (List UInt8 × Node) → Bool
  | [] => true
  | (key, value) :: members =>
    (unquoted? key).isSome && value.checked levels && checkedMembers levels members

end

/-- A tag is a string. It may also be written as an object with the string as its only key, which
then has no value; in content that was checked before, an empty object counts as no value too. -/
def asTag? (levels : Nat) (buffered : Bool) : Node → Option String
  | string raw => unquoted? raw
  | object [(raw, null)] => if 0 < levels then unquoted? raw else none
  | object [(raw, object [])] => if 0 < levels ∧ buffered then unquoted? raw else none
  | _ => none

/-- A tag with the content that belongs to it, if there is one; `buffered` tells whether the content
stood before the tag, or is part of such content. -/
structure Tagged where
  tag : String
  content : Option Node
  buffered : Bool

/-- The members of an object for a tag and a content, in the order in which they stand; the keys may
not repeat, and others are skipped. -/
def taggedMembers? (tagKey contentKey : String) (levels : Nat) (buffered : Bool)
    (members : List (List UInt8 × Node)) : Option Tagged := do
  match ← known? [tagKey, contentKey] members [] with
  | [(key, node)] =>
    if key = tagKey then return ⟨← node.asTag? levels buffered, none, buffered⟩ else none
  | [(key, first), (_, second)] =>
    if key = tagKey then return ⟨← first.asTag? levels buffered, some second, buffered⟩
    else if first.checked levels then return ⟨← second.asTag? levels buffered, some first, true⟩
    else none
  | _ => none

/-- The tag and the content of a tagged union; the levels are those that remain inside it. -/
def tagged? (tagKey contentKey : String) (levels : Nat) (buffered : Bool) : Node → Option Tagged
  | object members => taggedMembers? tagKey contentKey levels buffered members
  | array [tag, content] =>
    (tag.asTag? levels buffered).map fun tag => ⟨tag, some content, buffered⟩
  | _ => none

end Isolation.Json.Node
