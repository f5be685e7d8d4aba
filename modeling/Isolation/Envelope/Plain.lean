import Isolation.Diagnostic
import Isolation.Json.Shape

/-!
# Plain data in documents

How scalars, diagnostics and outcomes are written in documents and read from them. Every scalar is
a tagged union, so that each kind of leaf keeps its kind.

## Main definitions

* `Scalar.toNode`, `Scalar.ofNode?`
* `Diagnostic.toNode`, `Diagnostic.ofNode?`
* `Outcome.toNode`, `Outcome.ofNode?`
-/

namespace Isolation

open Json

namespace Json.Node

/-- A string with a given text. -/
def ofString (text : String) : Node := string (quoted text)

/-- An object with given keys. -/
def ofFields (fields : List (String × Node)) : Node :=
  object (fields.map fun field => (quoted field.1, field.2))

/-- An integer. -/
def ofInt (n : Int) : Node := number (Number.ofInt n)

/-- A floating-point number; null if it has no written form. -/
def ofFloat (x : Binary64) : Node := ((Number.ofFloat? x).map number).getD null

/-- The 64-bit integer that is written. -/
def asInt64? : Node → Option Int64
  | number n => n.toInt?.bind fun i =>
    if -(2 ^ 63 : Nat) ≤ i ∧ i < (2 ^ 63 : Nat) then some (Int64.ofInt i) else none
  | _ => none

end Json.Node

namespace Scalar

/-- The kinds of scalars, which are the tags of their union. -/
inductive Kind
  | null
  | bool
  | int
  | float
  | str
  | array
  | record
  deriving DecidableEq, Repr

/-- The tag of a kind. -/
def Kind.tag : Kind → String
  | null => "null"
  | bool => "bool"
  | int => "int"
  | float => "float"
  | str => "str"
  | array => "array"
  | record => "record"

/-- The kind with a given tag. -/
def Kind.ofTag? (tag : String) : Option Kind :=
  [null, bool, int, float, str, array, record].find? fun kind => kind.tag = tag

theorem Kind.ofTag?_tag (kind : Kind) : Kind.ofTag? kind.tag = some kind := by
  cases kind <;> decide

/-- A scalar of a kind with its content. -/
def taggedNode (kind : Kind) (content : Option Node) : Node :=
  .ofFields (("type", .ofString kind.tag) :: (content.map fun node => ("value", node)).toList)

mutual

/-- A scalar as a document. -/
def toNode : Scalar → Node
  | null => taggedNode .null none
  | bool b => taggedNode .bool (some (.bool b))
  | int n => taggedNode .int (some (.ofInt n.toInt))
  | float x => taggedNode .float (some (.ofFloat x))
  | str text => taggedNode .str (some (.ofString text))
  | array items => taggedNode .array (some (.array (toNodes items)))
  | record fields => taggedNode .record (some (.object (toMembers fields)))

/-- Scalars as documents. -/
def toNodes : List Scalar → List Node
  | [] => []
  | item :: items => item.toNode :: toNodes items

/-- Fields as members of an object. -/
def toMembers : List (String × Scalar) → List (List UInt8 × Node)
  | [] => []
  | (name, value) :: fields => (quoted name, value.toNode) :: toMembers fields

end

/-- The scalar in a document that may nest to a number of levels. -/
def ofNode? : Nat → Bool → Node → Option Scalar
  | 0, _, _ => none
  | levels + 1, buffered, node => do
    let tagged ← node.tagged? "type" "value" levels buffered
    match ← Kind.ofTag? tagged.tag, tagged.content with
    | .null, none => some null
    | .null, some .null => some null
    | .bool, some (.bool b) => some (bool b)
    | .int, some node => node.asInt64?.map int
    | .float, some (.number n) => n.toFloat?.map float
    | .str, some (.string raw) => (unquoted? raw).map str
    -- the union took one level, and the array or object in it takes another
    | .array, some (.array items) =>
      match levels with
      | 0 => none
      | levels + 1 => (items.mapM (ofNode? levels tagged.buffered)).map array
    | .record, some (.object members) =>
      match levels with
      | 0 => none
      | levels + 1 => do
        let pairs ← members.mapM fun member => do
          let name ← unquoted? member.1
          let value ← ofNode? levels tagged.buffered member.2
          return (name, value)
        return record (Fields.ofList pairs)
    | _, _ => none

end Scalar

namespace Frame

/-- A frame as a document; a location that is not known is left out. -/
def toNode (frame : Frame) : Node :=
  .ofFields ([("unit", .ofString frame.unit), ("member", .ofString frame.member)] ++
    (frame.location.map fun location => ("location", .ofString location)).toList)

/-- The frame in a document that may nest to a number of levels. A location may be left out or be
null. -/
def ofNode? : Nat → Node → Option Frame
  | 0, _ => none
  | _ + 1, node => do
    let fields ← node.fields? ["unit", "member", "location"]
    let unit ← (← Node.field? "unit" fields).asString?
    let member ← (← Node.field? "member" fields).asString?
    let location ← match Node.field? "location" fields with
      | none => some none
      | some .null => some none
      | some node => node.asString?.map some
    return { unit, member, location }

end Frame

namespace Diagnostic

mutual

/-- A diagnostic as a document. -/
def toNode : Diagnostic → Node
  | mk message frames causes =>
    .ofFields [("message", .ofString message), ("frames", .array (frames.map Frame.toNode)),
      ("causes", .array (toNodes causes))]

/-- Diagnostics as documents. -/
def toNodes : List Diagnostic → List Node
  | [] => []
  | cause :: causes => cause.toNode :: toNodes causes

end

/-- The items of a list that may be left out. -/
def optionalItems? : Option Node → Option (List Node)
  | none => some []
  | some (.array items) => some items
  | some _ => none

/-- The diagnostic in a document that may nest to a number of levels. Frames and causes may be left
out; even an empty list of them takes a level. -/
def ofNode? : Nat → Node → Option Diagnostic
  | 0, _ => none
  | levels + 1, node => do
    let fields ← node.fields? ["message", "frames", "causes"]
    let message ← (← Node.field? "message" fields).asString?
    match levels with
    | 0 =>
      if (Node.field? "frames" fields).isNone && (Node.field? "causes" fields).isNone then
        return mk message [] []
      else none
    | levels + 1 => do
      let frames ← (← optionalItems? (Node.field? "frames" fields)).mapM (Frame.ofNode? levels)
      let causes ← (← optionalItems? (Node.field? "causes" fields)).mapM (ofNode? levels)
      return mk message frames causes

end Diagnostic

namespace Outcome

/-- An outcome as a document. -/
def toNode : Outcome → Node
  | success value => .ofFields [("outcome", .ofString "success"), ("data", value.toNode)]
  | failure diagnostic => .ofFields [("outcome", .ofString "failure"), ("data", diagnostic.toNode)]

/-- The outcome in a document that may nest to a number of levels. -/
def ofNode? : Nat → Node → Option Outcome
  | 0, _ => none
  | levels + 1, node => do
    let tagged ← node.tagged? "outcome" "data" levels false
    let content ← tagged.content
    if tagged.tag = "success" then (Scalar.ofNode? levels tagged.buffered content).map success
    else if tagged.tag = "failure" then (Diagnostic.ofNode? levels content).map failure
    else none

end Outcome

end Isolation
