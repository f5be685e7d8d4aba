import Isolation.StringMap

/-!
# Ambient contexts

Work runs in an ambient context: inputs and an environment that it may read, and outputs that it
may write and that are collected when the context ends.

## Main definitions

* `Context` — inputs, environment and outputs
* `Snapshot` — what a context starts from
* `ContextError` — starting a context twice, or using one that is not there
-/

namespace Isolation

/-- What an ambient context starts from. -/
structure Snapshot where
  input : StringMap String := ∅
  env : StringMap String := ∅
  deriving DecidableEq, Repr

/-- An ambient context. -/
structure Context where
  input : StringMap String
  output : StringMap String
  env : StringMap String
  deriving DecidableEq, Repr

/-- A context starts without outputs. -/
def Context.ofSnapshot (snapshot : Snapshot) : Context :=
  { input := snapshot.input, output := ∅, env := snapshot.env }

/-- What the context would start from again. -/
def Context.snapshot (context : Context) : Snapshot :=
  { input := context.input, env := context.env }

/-- A step that the life of a context does not allow. -/
inductive ContextError
  | alreadyActive
  | notActive
  deriving DecidableEq, Repr

/-- The error as text. -/
def ContextError.message : ContextError → String
  | alreadyActive => "an ambient context is already active on this thread"
  | notActive => "no ambient context is active on this thread"

end Isolation
