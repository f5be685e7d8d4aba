import Isolation.Archive.Open
import Isolation.Envelope.Basic

/-!
# What can go wrong with loaders and work

Each step of a dispatch has its own errors; those of a later step take in those of the step that
caused them.

## Main definitions

* `LoaderId` — the number of a loader
* `ResolveError`, `BoundaryError`, `PropagateError`, `DispatchError`
* `Crash`, `Attempt` — work that breaks off instead of ending
-/

namespace Isolation

/-- Loaders are numbered from one on, in the order in which they are made. -/
structure LoaderId where
  number : Nat
  deriving DecidableEq, Repr

/-- The number of a loader as text. -/
def LoaderId.display (id : LoaderId) : String := "loader#" ++ Text.ofNat id.number

/-- Why a name cannot be resolved to a unit. -/
inductive ResolveError
  | notFound (symbol : String)
  | noEntryPoint (unit member : String)
  | archive (error : ArchiveError)
  | closed (id : LoaderId)
  deriving DecidableEq, Repr

/-- The error as text. -/
def ResolveError.message : ResolveError → String
  | notFound symbol => "unit not found: " ++ symbol
  | noEntryPoint unit member => "unit " ++ unit ++ " has no entry point '" ++ member ++ "'"
  | archive error => error.message
  | closed id => id.display ++ " is closed"

/-- Why a boundary cannot be made. -/
inductive BoundaryError
  | unopened (error : ArchiveError)
  | undiscovered (error : ArchiveError)
  deriving DecidableEq, Repr

/-- The error as text. -/
def BoundaryError.message : BoundaryError → String
  | unopened error => "cannot open isolated archives: " ++ error.message
  | undiscovered error => "package discovery failed: " ++ error.message

/-- Why a context cannot be carried into a boundary or its outputs out of it. -/
inductive PropagateError
  | marshal (error : MarshalError)
  | context (error : ContextError)
  deriving DecidableEq, Repr

/-- The error as text. -/
def PropagateError.message : PropagateError → String
  | marshal error => "context marshaling failed: " ++ error.message
  | context error => "ambient protocol violation: " ++ error.message

/-- Why a dispatch brings no outcome of its work. -/
inductive DispatchError
  | boundary (error : BoundaryError)
  | resolve (error : ResolveError)
  | marshal (error : MarshalError)
  | propagate (error : PropagateError)
  deriving DecidableEq, Repr

/-- The error as text. -/
def DispatchError.message : DispatchError → String
  | boundary error => "cannot build boundary: " ++ error.message
  | resolve error => "cannot resolve work unit: " ++ error.message
  | marshal error => "cannot marshal work result: " ++ error.message
  | propagate error => "cannot propagate ambient context: " ++ error.message

/-- What is known of a crash: its text, if it has one. -/
inductive Crash
  | text (message : String)
  | silent
  deriving DecidableEq, Repr

/-- An answer, or the crash that came instead of it. -/
inductive Attempt (α : Type)
  | done (answer : α)
  | crashed (crash : Crash)
  deriving Repr

end Isolation
