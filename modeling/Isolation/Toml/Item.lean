import Isolation.Fields

/-!
# Items of configuration documents

A configuration document is a table of items under keys. How a table came to be decides whether
later lines may still add to it.

## Main definitions

* `Toml.Item` — strings, truth values, arrays and tables; numbers and times stand without content
* `Toml.Origin` — how a table came to be
-/

namespace Isolation.Toml

/-- How a table came to be: by a header of its own, as a part of the path in a header, as a part of
a dotted key, or as a value in one line. -/
inductive Origin
  | header
  | path
  | dotted
  | inline
  deriving DecidableEq, Repr

/-- Tables that exist only because a path or a dotted key leads through them. -/
def Origin.isImplicit : Origin → Bool
  | header => false
  | path => true
  | dotted => true
  | inline => false

/-- What stands under a key. `plain` is a number, a date or a time; `tables` is an array of tables
that is written with one header for each. -/
inductive Item
  | string (text : String)
  | bool (b : Bool)
  | plain
  | array (items : List Item)
  | table (origin : Origin) (entries : List (String × Item))
  | tables (elements : List Item)
  deriving Inhabited, Repr

end Isolation.Toml
