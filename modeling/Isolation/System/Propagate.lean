import Isolation.System.Basic

/-!
# Carrying contexts across a boundary

Before work runs, what the context of the host starts from is carried into the store of the
boundary; afterwards the outputs are carried back. All of it crosses as bytes. Where both sides
share a store, or the host has no context, there is nothing to carry.

## Main definitions

* `Stores.propagateIn`, `Stores.propagateOut`
-/

namespace Isolation.Stores

/-- Starts a context in the store of the boundary as in that of the host. The answer tells whether
this was done. -/
def propagateIn (stores : Stores) (thread : ThreadId) (host boundary : StoreId) :
    Except PropagateError Bool × Stores :=
  if host = boundary then (.ok false, stores)
  else
    match (stores.get host).snapshot? thread with
    | none => (.ok false, stores)
    | some snapshot =>
      -- the boundary starts from what the bytes say
      match Snapshot.decode snapshot.encode with
      | .error error => (.error (.marshal error), stores)
      | .ok snapshot =>
        match stores.change boundary (·.start thread snapshot) with
        | (.ok (), stores) => (.ok true, stores)
        | (.error error, stores) => (.error (.context error), stores)

/-- Ends the context in the store of the boundary and adds its outputs to those in the store of the
host. -/
def propagateOut (stores : Stores) (thread : ThreadId) (host boundary : StoreId) :
    Except PropagateError (StringMap String) × Stores :=
  if host = boundary then (.ok ∅, stores)
  else
    -- the context ends first, and stays ended if its outputs get lost on their way
    match stores.stop boundary thread with
    | (.error error, stores) => (.error (.context error), stores)
    | (.ok outputs, stores) =>
      match decodeOutputs (encodeOutputs outputs) with
      | .error error => (.error (.marshal error), stores)
      | .ok outputs =>
        match stores.change host (·.merge thread outputs) with
        | (.ok (), stores) => (.ok outputs, stores)
        | (.error error, stores) => (.error (.context error), stores)

end Isolation.Stores
