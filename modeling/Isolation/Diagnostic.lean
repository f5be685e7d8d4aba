import Isolation.Scalar

/-!
# Diagnostics and outcomes

What comes back from work: plain data or the description of a failure, with the places it passed
through and the failures that caused it.

## Main definitions

* `Frame` — a place in a unit
* `Diagnostic` — a failure in plain data
* `Outcome` — success or failure of work
-/

namespace Isolation

/-- A place that a failure passed through: a member of a unit, and where the unit came from. -/
structure Frame where
  unit : String
  member : String
  location : Option String := none
  deriving DecidableEq, Repr

/-- A frame as text. -/
def Frame.display (frame : Frame) : String :=
  "at " ++ frame.unit ++ "." ++ frame.member ++
    match frame.location with
    | some location => " (" ++ location ++ ")"
    | none => ""

/-- A failure in plain data, with its causes. -/
inductive Diagnostic
  | mk (message : String) (frames : List Frame) (causes : List Diagnostic)
  deriving Inhabited, Repr

namespace Diagnostic

/-- What went wrong. -/
def message : Diagnostic → String
  | mk message _ _ => message

/-- The places that the failure passed through, innermost first. -/
def frames : Diagnostic → List Frame
  | mk _ frames _ => frames

/-- The failures behind this one. -/
def causes : Diagnostic → List Diagnostic
  | mk _ _ causes => causes

mutual

/-- A diagnostic as text, one line for the message, each frame and each cause. -/
def display : Diagnostic → String
  | mk message frames causes =>
    message ++ String.join (frames.map fun frame => "\n    " ++ frame.display) ++
      displayCauses causes

/-- The causes as text. -/
def displayCauses : List Diagnostic → String
  | [] => ""
  | cause :: causes => "\ncaused by: " ++ cause.display ++ displayCauses causes

end

end Diagnostic

/-- How work ended. -/
inductive Outcome
  | success (value : Scalar)
  | failure (diagnostic : Diagnostic)
  deriving Inhabited, Repr

namespace Outcome

/-- Whether the work succeeded. -/
def isSuccess : Outcome → Bool
  | success _ => true
  | failure _ => false

/-- What the work returned. -/
def value? : Outcome → Option Scalar
  | success value => some value
  | failure _ => none

/-- Why the work failed. -/
def failure? : Outcome → Option Diagnostic
  | success _ => none
  | failure diagnostic => some diagnostic

end Outcome

end Isolation
