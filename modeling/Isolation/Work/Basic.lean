import Isolation.Checksum.Sha256
import Isolation.Loader.Error
import Isolation.Policy.Basic

/-!
# Work

What an entry point of a unit does, as a tree of its actions: each action says what happens next for
every answer that it may get. Actions on the context concern the one that the work was called with.

## Main definitions

* `UnitInfo` — what work can learn of a unit
* `Request` — a dispatch that is asked for
* `Work` — the actions of an entry point
* `Invocation`, `Handler` — what an entry point is called with
-/

namespace Isolation

/-- What is known of a unit that a loader has made: its name, where it came from, its bytes and the
names of its entry points. -/
structure UnitInfo where
  name : String
  loader : LoaderId
  archive : String
  path : String
  bytes : List UInt8
  members : List String
  deriving DecidableEq, Repr

namespace UnitInfo

/-- The place that a unit came from. -/
def location (unit : UnitInfo) : String := unit.archive ++ "!/" ++ unit.path

/-- The digest of the bytes of a unit. -/
def digest (unit : UnitInfo) : List UInt8 := Sha256.digest unit.bytes

/-- Whether two units, perhaps of different loaders, have one name and the same bytes. -/
def sameShape (unit other : UnitInfo) : Bool :=
  unit.name = other.name && unit.digest = other.digest

end UnitInfo

/-- The entry point that work is dispatched to. -/
def runEntry : String := "run"

/-- How a store is spoken of: the store of the process, one with a name, or that of a loader. -/
inductive StoreName
  | process
  | named (name : String)
  | ofLoader (loader : String)
  deriving DecidableEq, Repr

/-- Where work is dispatched to: a boundary that is there, or one that is built for it. Loaders and
registries are spoken of by their names. -/
inductive Target
  | existing (boundary : String)
  | build (parent : String) (registry : Option String) (policy : Policy)

/-- A dispatch that is asked for: the unit to run, the item it is given, the store whose context is
carried along, and the boundary. -/
structure Request where
  work : String
  item : String
  store : StoreName
  target : Target

/-- What work leaves in the log. -/
inductive Note
  | probe (unit member item : String) (bytes : List UInt8) (active : Bool)
      (loader : Option LoaderId)
  | looked (input env output : Option String)
  | loaded (answer : Option (Except ResolveError UnitInfo))
  | stopped (answer : Except ContextError (StringMap String))
  | dispatched (answer : Attempt (Except DispatchError Outcome))

/-- The actions of an entry point up to its end. -/
inductive Work
  | finish (returned : Except Failure Value)
  | crash (crash : Crash)
  | isActive (next : Bool → Work)
  | input (key : String) (next : Option String → Work)
  | env (key : String) (next : Option String → Work)
  | output (key : String) (next : Option String → Work)
  | put (key value : String) (next : Except ContextError Unit → Work)
  | currentLoader (next : Option LoaderId → Work)
  | install (loader : Option String) (next : Work)
  | load (symbol : String) (next : Option (Attempt (Except ResolveError UnitInfo)) → Work)
  | close (loader : String) (next : Work)
  | start (store : StoreName) (snapshot : Snapshot) (next : Except ContextError Unit → Work)
  | stop (store : StoreName) (next : Except ContextError (StringMap String) → Work)
  | dispatch (request : Request) (next : Attempt (Except DispatchError Outcome) → Work)
  | note (note : Note) (next : Work)

/-- What an entry point is called with, its context apart. -/
structure Invocation where
  unit : String
  member : String
  item : String
  bytes : List UInt8
  deriving DecidableEq, Repr

/-- An entry point. -/
abbrev Handler := Invocation → Work

end Isolation
