import Isolation.Binary64.Basic
import Isolation.StringMap

/-!
# Plain data

The values that can be handed from one loader to another: trees of leaves that mean the same
everywhere.

## Main definitions

* `Scalar` — trees of plain data
* `Scalar.get?` and the accessors `Scalar.asInt?`, `Scalar.asFloat?`, `Scalar.asBool?`,
  `Scalar.asStr?`, `Scalar.asArray?`
-/

namespace Isolation

/-- Plain data. The fields of a record are listed in ascending order of their names. -/
inductive Scalar
  | null
  | bool (b : Bool)
  | int (n : Int64)
  | float (x : Binary64)
  | str (text : String)
  | array (items : List Scalar)
  | record (fields : List (String × Scalar))
  deriving Inhabited, Repr

namespace Scalar

/-- The value of a field of a record. -/
def get? (scalar : Scalar) (name : String) : Option Scalar :=
  match scalar with
  | record fields => Fields.find? name fields
  | _ => none

/-- The number in an integer. -/
def asInt? : Scalar → Option Int64
  | int n => some n
  | _ => none

/-- The number in a float. -/
def asFloat? : Scalar → Option Binary64
  | float x => some x
  | _ => none

/-- The truth value in a boolean. -/
def asBool? : Scalar → Option Bool
  | bool b => some b
  | _ => none

/-- The text in a string. -/
def asStr? : Scalar → Option String
  | str text => some text
  | _ => none

/-- The items of an array. -/
def asArray? : Scalar → Option (List Scalar)
  | array items => some items
  | _ => none

end Scalar

end Isolation
