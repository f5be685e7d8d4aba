import Isolation.Context.Basic
import Isolation.Diagnostic
import Isolation.Text.Quoted

/-!
# Failures of work

Work fails with a message, the places it passed through and a chain of causes, each the reason for
the one before it.

## Main definitions

* `Cause` — a link of a chain of causes
* `Failure` — a failure of work with its chain
* `Failure.describe` — a failure with all that it holds, for debugging
-/

namespace Isolation

/-- One link of a chain of causes: a failure of work with frames of its own, a misuse of a context,
or any other error, of which only the text is known. -/
inductive Cause
  | failed (message : String) (frames : List Frame)
  | context (error : ContextError)
  | other (message : String)
  deriving DecidableEq, Repr

namespace Cause

/-- What went wrong. -/
def message : Cause → String
  | failed message _ => message
  | context error => error.message
  | other message => message

/-- The frames of a failure of work; other errors have none. -/
def frames : Cause → List Frame
  | failed _ frames => frames
  | context _ => []
  | other _ => []

end Cause

/-- A failure of work. The causes are listed nearest first. -/
structure Failure where
  message : String
  frames : List Frame := []
  causes : List Cause := []
  deriving DecidableEq, Repr

namespace Failure

/-- A failure without frames and causes. -/
def new (message : String) : Failure := { message }

/-- The failure as the first link of its chain. -/
def chain (failure : Failure) : List Cause :=
  .failed failure.message failure.frames :: failure.causes

/-- A failure that stands for an error, given with the causes of that error. -/
def wrap (error : Cause) (causes : List Cause) : Failure :=
  { message := error.message, causes := error :: causes }

/-- A misuse of a context as a failure of the work that did it. -/
def ofContextError (error : ContextError) : Failure := wrap (.context error) []

/-- Adds a place that the failure passed through. -/
def withFrame (failure : Failure) (frame : Frame) : Failure :=
  { failure with frames := failure.frames ++ [frame] }

/-- Sets the chain of causes, replacing the one it had. -/
def causedBy (failure : Failure) (causes : List Cause) : Failure := { failure with causes }

/-- An optional text, with its quotes if it is there. -/
def describeOption : Option String → String
  | some text => "Some(" ++ Text.quote text ++ ")"
  | none => "None"

/-- A frame with all its fields. -/
def describeFrame (frame : Frame) : String :=
  "Frame \x7b unit: " ++ Text.quote frame.unit ++ ", member: " ++ Text.quote frame.member ++
    ", location: " ++ describeOption frame.location ++ " \x7d"

/-- A failure with all its fields, of the causes only the text of the nearest. -/
def describe (failure : Failure) : String :=
  "UnitError \x7b message: " ++ Text.quote failure.message ++
    ", frames: " ++ Text.bracket (failure.frames.map describeFrame) ++
    ", source: " ++ describeOption (failure.causes.head?.map Cause.message) ++ " \x7d"

end Failure

end Isolation
