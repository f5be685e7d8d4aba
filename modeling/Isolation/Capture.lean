import Isolation.Failure
import Isolation.Text.Numeral
import Isolation.Value

/-!
# Capturing values and failures

What work returns is captured in plain data before it leaves the boundary. Private fields and the
names of record types are dropped; what cannot be taken apart is refused with its place in the
value. Failures are captured with their causes, and only the first levels of a long chain are kept.

## Main definitions

* `maxDepth` — the number of levels that are captured
* `Value.capture` — a value as plain data
* `Diagnostic.ofChain?`, `Failure.capture` — a chain of causes as a diagnostic
* `captureOutcome` — what work returned as an outcome
-/

namespace Isolation

/-- Nothing is captured at this depth and below. -/
def maxDepth : Nat := 60

/-- A step from a value to a part of it. -/
inductive PathStep
  | item (index : Nat)
  | field (name : String)
  deriving DecidableEq, Repr

/-- A step as text. -/
def PathStep.display : PathStep → String
  | item index => "[" ++ Text.ofNat index ++ "]"
  | field name => "." ++ name

/-- Why a leaf cannot be captured. -/
inductive Obstacle
  | nonFinite (x : Binary64)
  | foreign (handle : UInt64)
  deriving DecidableEq, Repr

/-- The obstacle as text. -/
def Obstacle.message : Obstacle → String
  | nonFinite x => "non-finite float " ++ x.display
  | foreign handle => "foreign handle " ++ Text.ofNat handle.toNat ++ " is not decomposable"

/-- Why a value cannot be captured. The trail leads from the offending part up to the whole. -/
inductive CaptureError
  | unmarshallable (trail : List PathStep) (obstacle : Obstacle)
  | tooDeep
  deriving DecidableEq, Repr

/-- The way down a trail as text, from the whole value, which is written `$`. -/
def displayTrail (trail : List PathStep) : String :=
  "$" ++ String.join (trail.reverse.map PathStep.display)

/-- The error as text. -/
def CaptureError.message : CaptureError → String
  | unmarshallable trail obstacle =>
    "value cannot be marshaled at " ++ displayTrail trail ++ ": " ++ obstacle.message
  | tooDeep => "maximum marshaling depth exceeded"

namespace Value

mutual

/-- Captures the part of a value that a trail leads to; the length of the trail is its depth. -/
def captureAt (trail : List PathStep) (value : Value) : Except CaptureError Scalar :=
  -- the depth is looked at first: this far down even a leaf is refused
  if maxDepth ≤ trail.length then .error .tooDeep
  else match value with
    | .null => .ok .null
    | .bool b => .ok (.bool b)
    | .int n => .ok (.int n)
    | .float x =>
      if x.isFinite then .ok (.float x) else .error (.unmarshallable trail (.nonFinite x))
    | .str text => .ok (.str text)
    | .array items => (captureItems trail 0 items).map .array
    | .record _ fields =>
      (captureFields trail fields).map fun pairs => .record (Fields.ofList pairs)
    | .foreign handle => .error (.unmarshallable trail (.foreign handle))

/-- Captures the items of an array from an index on. -/
def captureItems (trail : List PathStep) (index : Nat) :
    List Value → Except CaptureError (List Scalar)
  | [] => .ok []
  | item :: items => do
    let scalar ← captureAt (.item index :: trail) item
    let scalars ← captureItems trail (index + 1) items
    return scalar :: scalars

/-- Captures the fields of a record that are not private. -/
def captureFields (trail : List PathStep) :
    List (String × Value) → Except CaptureError (List (String × Scalar))
  | [] => .ok []
  | (name, value) :: fields =>
    -- a private field may hold what cannot be captured
    if Record.isPrivate name then captureFields trail fields
    else do
      let scalar ← captureAt (.field name :: trail) value
      let scalars ← captureFields trail fields
      return (name, scalar) :: scalars

end

/-- A value as plain data. -/
def capture (value : Value) : Except CaptureError Scalar := captureAt [] value

end Value

/-- A chain as a diagnostic with one cause on each level but the last. -/
def Diagnostic.ofChain? : List Cause → Option Diagnostic
  | [] => none
  | cause :: causes => some (.mk cause.message cause.frames (Diagnostic.ofChain? causes).toList)

/-- An error with its causes as a diagnostic; only the first levels are kept. -/
def Cause.capture (error : Cause) (causes : List Cause) : Diagnostic :=
  .mk error.message error.frames (Diagnostic.ofChain? (causes.take (maxDepth - 1))).toList

/-- A failure of work as a diagnostic. -/
def Failure.capture (failure : Failure) : Diagnostic :=
  Cause.capture (.failed failure.message failure.frames) failure.causes

/-- What work returned as an outcome. Every failure can be captured. -/
def captureOutcome : Except Failure Value → Except CaptureError Outcome
  | .ok value => value.capture.map .success
  | .error failure => .ok (.failure failure.capture)

end Isolation
