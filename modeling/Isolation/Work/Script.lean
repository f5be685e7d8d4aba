import Isolation.Work.Registry

/-!
# Scripts

Entry points that are written as a list of actions, which are done in order until one of them ends
the work. A script that comes to its end returns null.

## Main definitions

* `Action` — the actions of a script
* `Script.handler` — the entry point that does them
-/

namespace Isolation

/-- The parts of a context. -/
inductive ContextPart
  | input
  | env
  | output
  deriving DecidableEq, Repr

/-- An action of a script. -/
inductive Action
  | put (key value : String)
  | copy (part : ContextPart) (key target : String)
  | probe
  | look (key : String)
  | load (symbol : String)
  | close (boundary : String)
  | stop (store : StoreName)
  | start (store : StoreName) (snapshot : Snapshot)
  | dispatch (request : Request)
  | returnItem
  | returnValue (value : Value)
  | fail (failure : Failure)
  | crash (crash : Crash)

namespace Script

/-- Goes on unless a context was misused, which is then the failure of the work. -/
def orFail (next : Work) : Except ContextError Unit → Work
  | .ok () => next
  | .error error => .finish (.error (.ofContextError error))

/-- Looks up a part of the context. -/
def lookUp (part : ContextPart) (key : String) (next : Option String → Work) : Work :=
  match part with
  | .input => .input key next
  | .env => .env key next
  | .output => .output key next

/-- What the slot's loader answered, noted; work does not survive a crash of the loader. -/
def noteLoaded (next : Work) : Option (Attempt (Except ResolveError UnitInfo)) → Work
  | none => .note (.loaded none) next
  | some (.done answer) => .note (.loaded (some answer)) next
  | some (.crashed crash) => .crash crash

/-- The work of a list of actions. -/
def work (invocation : Invocation) : List Action → Work
  | [] => .finish (.ok .null)
  | action :: actions =>
    let next := work invocation actions
    match action with
    | .put key value => .put key value (orFail next)
    | .copy part key target =>
      lookUp part key fun found => .put target (found.getD "<none>") (orFail next)
    | .probe =>
      .isActive fun active => .currentLoader fun loader =>
        .note (.probe invocation.unit invocation.member invocation.item invocation.bytes active
          loader) next
    | .look key =>
      .input key fun input => .env key fun env => .output key fun output =>
        .note (.looked input env output) next
    | .load symbol => .load symbol (noteLoaded next)
    | .close boundary => .close boundary next
    | .stop store => .stop store fun answer => .note (.stopped answer) next
    | .start store snapshot => .start store snapshot (orFail next)
    | .dispatch request => .dispatch request fun answer => .note (.dispatched answer) next
    | .returnItem => .finish (.ok (.str invocation.item))
    | .returnValue value => .finish (.ok value)
    | .fail failure => .finish (.error failure)
    | .crash crash => .crash crash

/-- The entry point that does a list of actions. -/
def handler (actions : List Action) : Handler := fun invocation => work invocation actions

end Script

end Isolation
