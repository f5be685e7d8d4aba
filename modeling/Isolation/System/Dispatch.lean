import Isolation.System.Propagate

/-!
# Dispatching work

Work runs in a boundary: the boundary is put into the slot of the thread, the context is carried in,
the unit is resolved and its entry point runs, what it returned is marshaled, and in the end the
outputs are carried out and the slot is restored, however the work ended.

## Main definitions

* `Work.run` — the actions of an entry point, one after the other
* `System.dispatchInto` — a dispatch into a boundary that is supplied in whatever way
* `System.dispatch` — a dispatch; work that dispatches again nests to a given depth only
-/

namespace Isolation

/-- How an entry point ended. -/
abbrev Ended := Attempt (Except Failure Value)

namespace Work

/-- Runs the actions of an entry point that was called with a context. How a dispatch is done is
given; none if it cannot be done. -/
def run (dispatch : Request → System → Option (Attempt (Except DispatchError Outcome) × System))
    (thread : ThreadId) (context : StoreId) : Work → System → Option (Ended × System)
  | finish returned, system => some (.done returned, system)
  | crash c, system => some (.crashed c, system)
  | isActive next, system =>
    (next ((system.stores.get context).isActive thread)).run dispatch thread context system
  | input key next, system =>
    (next ((system.stores.get context).input? thread key)).run dispatch thread context system
  | env key next, system =>
    (next ((system.stores.get context).env? thread key)).run dispatch thread context system
  | output key next, system =>
    (next ((system.stores.get context).output? thread key)).run dispatch thread context system
  | put key value next, system =>
    let (answer, stores) := system.stores.change context (·.put thread key value)
    (next answer).run dispatch thread context { system with stores }
  | currentLoader next, system =>
    (next (system.currentId? thread)).run dispatch thread context system
  | install loader next, system =>
    next.run dispatch thread context (system.setSlot thread (loader.bind system.loaderNamed?))
  | load symbol next, system =>
    -- the loader in the slot need not be the boundary in which the work runs
    match system.slots.get? thread with
    | none => (next none).run dispatch thread context system
    | some ref =>
      match system.resolve ref symbol with
      | (.done answer, system) =>
        (next (some (.done (answer.map LoadedUnit.info)))).run dispatch thread context system
      | (.crashed c, system) =>
        (next (some (.crashed c))).run dispatch thread context system
  | close loader next, system =>
    next.run dispatch thread context { system with loaders := system.loaders.closeNamed loader }
  | start store snapshot next, system =>
    let (answer, stores) := system.stores.change (system.storeOf store) (·.start thread snapshot)
    (next answer).run dispatch thread context { system with stores }
  | stop store next, system =>
    let (answer, stores) := system.stores.stop (system.storeOf store) thread
    (next answer).run dispatch thread context { system with stores }
  | .dispatch request next, system =>
    match dispatch request system with
    | some (answer, system) => (next answer).run dispatch thread context system
    | none => none
  | note n next, system => next.run dispatch thread context (system.addNote n)

end Work

namespace Crash

/-- What the failure of work that crashed says. -/
def message : Crash → String
  | text message => "work unit panicked: " ++ message
  | silent => "work unit panicked"

end Crash

/-- What is reported of work that ended: a crash is a failure, and every failure gets the place of
the entry point as its last frame. -/
def reported (unit : UnitInfo) : Ended → Except Failure Value
  | .done (.ok value) => .ok value
  | .done (.error failure) => .error (failure.withFrame (frame unit))
  | .crashed crash => .error ((Failure.new crash.message).withFrame (frame unit))
where
  /-- The place of the entry point. -/
  frame (unit : UnitInfo) : Frame :=
    { unit := unit.name, member := runEntry, location := some unit.location }

/-- The outcome of what is reported, as it comes back through marshaling. -/
def outcomeOf (returned : Except Failure Value) : Except MarshalError Outcome := do
  Outcome.decode (← encodeReturned returned)

namespace System

/-- The boundary that a request is for; it may have to be built. -/
def target (system : System) : Target → Except BoundaryError LoaderRef × System
  | .existing name => (.ok ((system.loaderNamed? name).getD system.loaders.list.length), system)
  | .build parent registry policy =>
    match system.loaderNamed? parent with
    | some parent => system.makeBoundary policy parent (system.registryOf registry)
    | none => system.makeBoundary policy system.loaders.list.length (system.registryOf registry)

/-- Resolves the unit in a boundary and runs its entry point. -/
def invoke (dispatch : Request → System → Option (Attempt (Except DispatchError Outcome) × System))
    (thread : ThreadId) (boundary : LoaderRef) (context : StoreId) (work item : String)
    (system : System) : Option (Attempt (Except DispatchError Outcome) × System) :=
  match system.resolve boundary work with
  | (.crashed crash, system) => some (.crashed crash, system)
  | (.done (.error error), system) => some (.done (.error (.resolve error)), system)
  | (.done (.ok unit), system) =>
    match unit.entries.find? runEntry with
    -- the unit was made all the same, and is kept
    | none => some (.done (.error (.resolve (.noEntryPoint unit.name runEntry))), system)
    | some handler =>
      let invocation : Invocation :=
        { unit := unit.name, member := runEntry, item, bytes := unit.bytes }
      match (handler invocation).run dispatch thread context system with
      | none => none
      | some (ended, system) =>
        match outcomeOf (reported unit.info ended) with
        | .ok outcome => some (.done (.ok outcome), system)
        | .error error => some (.done (.error (.marshal error)), system)

/-- Carries the outputs out, if a context was carried in. -/
def tearDown (thread : ThreadId) (host context : StoreId) (armed : Bool) (system : System) :
    Except PropagateError Unit × System :=
  if armed then
    let (answer, stores) := system.stores.propagateOut thread host context
    (answer.map fun _ => (), { system with stores })
  else (.ok (), system)

/-- What a dispatch answers: an error of the work comes before one of carrying its outputs out. -/
def settle : Attempt (Except DispatchError Outcome) → Except PropagateError Unit →
    Attempt (Except DispatchError Outcome)
  | .done (.ok outcome), .ok () => .done (.ok outcome)
  | .done (.ok _), .error error => .done (.error (.propagate error))
  | answer, _ => answer

/-- Runs work in a boundary that is in the slot of the thread. -/
def runIn (dispatch : Request → System → Option (Attempt (Except DispatchError Outcome) × System))
    (thread : ThreadId) (host : StoreId) (boundary : LoaderRef) (work item : String)
    (system : System) : Option (Attempt (Except DispatchError Outcome) × System) :=
  let context := ((system.loaders.get? boundary).map Loader.context).getD processStore
  match system.stores.propagateIn thread host context with
  | (.error error, stores) => some (.done (.error (.propagate error)), { system with stores })
  | (.ok armed, stores) =>
    match invoke dispatch thread boundary context work item { system with stores } with
    | none => none
    | some (answer, system) =>
      -- the context ends also if the work crashed
      let (collected, system) := tearDown thread host context armed system
      some (settle answer collected, system)

/-- A dispatch on a thread, with the context of a host, into a boundary that is supplied. How the
work dispatches again is given. -/
def dispatchInto
    (dispatch : Request → System → Option (Attempt (Except DispatchError Outcome) × System))
    (thread : ThreadId) (host : StoreId)
    (supply : System → Except BoundaryError LoaderRef × System) (work item : String)
    (system : System) : Option (Attempt (Except DispatchError Outcome) × System) :=
  match supply system with
  | (.error error, system) => some (.done (.error (.boundary error)), system)
  | (.ok boundary, system) =>
    -- what was in the slot comes back, whatever happens in between
    let previous := system.slots.get? thread
    let system := system.setSlot thread (some boundary)
    match runIn dispatch thread host boundary work item system with
    | none => none
    | some (answer, system) => some (answer, system.setSlot thread previous)

/-- A dispatch that is asked for. Work that dispatches again may nest to the given depth; none if it
goes deeper. -/
def dispatch (thread : ThreadId) :
    Nat → Request → System → Option (Attempt (Except DispatchError Outcome) × System)
  | 0, _, _ => none
  | depth + 1, request, system =>
    dispatchInto (dispatch thread depth) thread (system.storeOf request.store)
      (·.target request.target) request.work request.item system

end System

end Isolation
