import Isolation.Binary64.Text
import Isolation.StringMap
import Isolation.Text.Numeral

/-!
# Values

What the entry point of a unit returns: a dynamic value, which may hold handles that mean something
only to the loader it was made under.

## Main definitions

* `Value` — dynamic values
* `Record` — named fields of a named type
* `Value.display` — a value as text
-/

namespace Isolation

/-- A dynamic value. The fields of a record are listed in ascending order of their names; a foreign
value is a handle on something that cannot be taken apart. -/
inductive Value
  | null
  | bool (b : Bool)
  | int (n : Int64)
  | float (x : Binary64)
  | str (text : String)
  | array (items : List Value)
  | record (typeName : String) (fields : List (String × Value))
  | foreign (handle : UInt64)
  deriving Inhabited, Repr

namespace Value

/-- The word for the kind of a value. -/
def kind : Value → String
  | null => "null"
  | bool _ => "boolean"
  | int _ => "int"
  | float _ => "float"
  | str _ => "string"
  | array _ => "array"
  | record _ _ => "record"
  | foreign _ => "foreign"

/-- Whether a value is null. -/
def isNull : Value → Bool
  | null => true
  | _ => false

mutual

/-- A value as text. Strings stand in quotes, with nothing escaped. -/
def display : Value → String
  | null => "null"
  | bool b => if b then "true" else "false"
  | int n => Text.ofInt n.toInt
  | float x => x.display
  | str text => "\"" ++ text ++ "\""
  | array items => "[" ++ ", ".intercalate (displayItems items) ++ "]"
  | record typeName fields =>
    typeName ++ " \x7b" ++ ",".intercalate (displayFields fields) ++ " \x7d"
  | foreign handle => "Foreign(" ++ Text.ofNat handle.toNat ++ ")"

/-- The texts of several values. -/
def displayItems : List Value → List String
  | [] => []
  | item :: items => item.display :: displayItems items

/-- The texts of several fields. -/
def displayFields : List (String × Value) → List String
  | [] => []
  | (name, value) :: fields => (" " ++ name ++ ": " ++ value.display) :: displayFields fields

end

end Value

/-- A value made of named fields. -/
structure Record where
  typeName : String
  fields : StringMap Value

namespace Record

/-- A record without fields. -/
def new (typeName : String) : Record := ⟨typeName, ∅⟩

/-- Sets a field, replacing the value it had. -/
def set (record : Record) (name : String) (value : Value) : Record :=
  { record with fields := record.fields.insert name value }

/-- The value of a field. -/
def get? (record : Record) (name : String) : Option Value := record.fields.find? name

/-- The record as a value. -/
def toValue (record : Record) : Value := .record record.typeName record.fields.toList

/-- The record as text. -/
def display (record : Record) : String := record.toValue.display

/-- Private fields begin with an underscore; they stay with the loader. -/
def isPrivate (name : String) : Bool := ['_'].isPrefixOf name.toList

end Record

end Isolation
