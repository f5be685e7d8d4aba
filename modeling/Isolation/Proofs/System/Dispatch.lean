import Isolation.Proofs.System.Supply

/-!
# The steps of a dispatch

A dispatch that has found its boundary and carried its context in resolves the unit, runs the entry
point and carries the outputs out. What it answers and leaves behind is put together here from what
these steps do.

## Main definitions

* `runnable`, `System.calls` — the entry point that is called
* `System.entered` — the system in which the unit is resolved
* `System.Entry` — a dispatch that has carried its context in

## Main results

* `System.dispatchInto_of_refused`, `System.dispatchInto_of_carried`, `System.dispatchInto_cases` —
  the ends of a dispatch
* `System.Entry.dispatch_of_error` — without an entry point nothing runs
* `System.Entry.dispatch_of_run` — otherwise the entry point runs once
* `System.Entry.collect_of_kept` — the outputs are carried out if no context was lost
-/

namespace Isolation

/-- The entry point that work is dispatched to, in a unit that was found. -/
def runnable : Except ResolveError LoadedUnit → Except ResolveError (LoadedUnit × Handler)
  | .error error => .error error
  | .ok unit =>
    match unit.entries.find? runEntry with
    | some handler => .ok (unit, handler)
    | none => .error (.noEntryPoint unit.name runEntry)

theorem runnable_eq_ok {found : Except ResolveError LoadedUnit} {unit : LoadedUnit}
    {handler : Handler} (h : runnable found = .ok (unit, handler)) :
    found = .ok unit ∧ unit.entries.find? runEntry = some handler := by
  cases found with
  | error error => cases h
  | ok unit =>
    rw [runnable] at h
    cases hentry : unit.entries.find? runEntry with
    | none =>
      rw [hentry] at h
      cases h
    | some handler =>
      rw [hentry] at h
      cases h
      exact ⟨rfl, hentry⟩

/-- What the entry point of a unit is called with. -/
def LoadedUnit.invocation (unit : LoadedUnit) (item : String) : Invocation :=
  { unit := unit.name, member := runEntry, item, bytes := unit.bytes }

/-- What is answered for work that ended. -/
def answerOf (unit : UnitInfo) (ended : Ended) : Attempt (Except DispatchError Outcome) :=
  match outcomeOf (reported unit ended) with
  | .ok outcome => .done (.ok outcome)
  | .error error => .done (.error (.marshal error))

namespace System

@[simp] theorem resolve_stores (system : System) (ref : LoaderRef) (symbol : String) :
    (system.resolve ref symbol).2.stores = system.stores := rfl

theorem settle_ok (answer : Attempt (Except DispatchError Outcome)) :
    settle answer (.ok ()) = answer := by
  cases answer with
  | crashed crash => rfl
  | done result => cases result <;> rfl

/-- The store of a loader. -/
def contextOf (system : System) (ref : LoaderRef) : StoreId :=
  ((system.loaders.get? ref).map Loader.context).getD processStore

/-- The entry point that work is dispatched to in a loader, with its unit; none if it is not found. -/
def calls (system : System) (ref : LoaderRef) (work : String) : Option (LoadedUnit × Handler) :=
  match (system.resolve ref work).1 with
  | .done found => (runnable found).toOption
  | .crashed _ => none

variable {thread : ThreadId} {request : Request} {system : System}

theorem calls_of_resolve {ref : LoaderRef} {work : String} {found : Except ResolveError LoadedUnit}
    {resolved : System} (answered : system.resolve ref work = (.done found, resolved)) :
    system.calls ref work = (runnable found).toOption := by
  rw [calls, answered]

theorem calls_eq_some {ref : LoaderRef} {work : String} {unit : LoadedUnit} {handler : Handler}
    (h : system.calls ref work = some (unit, handler)) :
    (system.resolve ref work).1 = .done (.ok unit) ∧
      unit.entries.find? runEntry = some handler := by
  rw [calls] at h
  split at h
  · next found hfound =>
    cases hrunnable : runnable found with
    | error error =>
      rw [hrunnable] at h
      cases h
    | ok called =>
      rw [hrunnable] at h
      cases h
      obtain ⟨rfl, hentry⟩ := runnable_eq_ok hrunnable
      exact ⟨hfound, hentry⟩
  · cases h

/-- If no entry point is called, nothing happens but that the unit was asked for. -/
theorem invoke_of_calls_none {boundary : LoaderRef} {work : String}
    (h : system.calls boundary work = none) :
    ∃ answer, ∀ nested thread context item,
      invoke nested thread boundary context work item system =
        some (answer, (system.resolve boundary work).2) := by
  rcases hresolve : system.resolve boundary work with ⟨found, resolved⟩
  simp only [calls, hresolve] at h
  simp only [invoke, hresolve]
  cases found with
  | crashed crash => exact ⟨_, fun _ _ _ _ => rfl⟩
  | done found =>
    cases found with
    | error error => exact ⟨_, fun _ _ _ _ => rfl⟩
    | ok unit =>
      cases hentry : unit.entries.find? runEntry with
      | none =>
        refine ⟨.done (.error (.resolve (.noEntryPoint unit.name runEntry))), fun _ _ _ _ => ?_⟩
        simp only [hentry]
      | some handler =>
        simp only [runnable, hentry] at h
        cases h

/-- Otherwise it runs once, in the system that asking for the unit left. -/
theorem invoke_of_calls {boundary : LoaderRef} {work : String} {unit : LoadedUnit}
    {handler : Handler} (h : system.calls boundary work = some (unit, handler))
    (nested : Request → System → Option (Attempt (Except DispatchError Outcome) × System))
    (context : StoreId) (item : String) :
    invoke nested thread boundary context work item system =
      ((handler (unit.invocation item)).run nested thread context
        (system.resolve boundary work).2).map fun ran => (answerOf unit.info ran.1, ran.2) := by
  obtain ⟨hanswer, hentry⟩ := calls_eq_some h
  have hresolve : system.resolve boundary work =
      (.done (.ok unit), (system.resolve boundary work).2) := Prod.ext hanswer rfl
  rw [invoke, hresolve]
  simp only [hentry, LoadedUnit.invocation]
  cases (handler { unit := unit.name, member := runEntry, item, bytes := unit.bytes }).run nested
      thread context (system.resolve boundary work).2 with
  | none => rfl
  | some ran =>
    simp only [answerOf, Option.map_some]
    cases outcomeOf (reported unit.info ran.1) <;> rfl

/-! ### The ends of a dispatch -/

section

variable {nested : Request → System → Option (Attempt (Except DispatchError Outcome) × System)}
  {host : StoreId} {work item : String}
  {supply : System → Except BoundaryError LoaderRef × System} {built : System} {stores : Stores}
  {boundary : LoaderRef}

/-- The system in which the unit of a dispatch is resolved: the boundary is in the slot. -/
def entered (built : System) (thread : ThreadId) (boundary : LoaderRef) (stores : Stores) : System :=
  { built.setSlot thread (some boundary) with stores }

/-- If the context cannot be carried in, nothing runs. -/
theorem dispatchInto_of_refused {error : PropagateError}
    (supplied : supply system = (.ok boundary, built))
    (refused : built.stores.propagateIn thread host (built.contextOf boundary) =
      (.error error, stores)) :
    dispatchInto nested thread host supply work item system =
      some (.done (.error (.propagate error)),
        (built.entered thread boundary stores).setSlot thread (built.slots.get? thread)) := by
  have hrefused : (built.setSlot thread (some boundary)).stores.propagateIn thread host
      ((((built.setSlot thread (some boundary)).loaders.get? boundary).map
        Loader.context).getD processStore) = (.error error, stores) := refused
  rw [dispatchInto, supplied]
  simp only [runIn, hrefused]
  rfl

/-- Otherwise the work is invoked, its outputs are carried out, and the slot is put back. -/
theorem dispatchInto_of_carried {armed : Bool} (supplied : supply system = (.ok boundary, built))
    (carried : built.stores.propagateIn thread host (built.contextOf boundary) =
      (.ok armed, stores)) :
    dispatchInto nested thread host supply work item system =
      (invoke nested thread boundary (built.contextOf boundary) work item
        (built.entered thread boundary stores)).map fun left =>
          (settle left.1 (tearDown thread host (built.contextOf boundary) armed left.2).1,
            (tearDown thread host (built.contextOf boundary) armed left.2).2.setSlot thread
              (built.slots.get? thread)) := by
  -- putting the boundary into the slot changes neither loaders nor stores
  have hcontext : (((built.setSlot thread (some boundary)).loaders.get? boundary).map
      Loader.context).getD processStore = built.contextOf boundary := rfl
  have hcarried : (built.setSlot thread (some boundary)).stores.propagateIn thread host
      (built.contextOf boundary) = (.ok armed, stores) := carried
  have hentered : ({ built.setSlot thread (some boundary) with stores } : System) =
      built.entered thread boundary stores := rfl
  rw [dispatchInto, supplied]
  simp only [runIn, hcontext, hcarried, hentered]
  cases invoke nested thread boundary (built.contextOf boundary) work item
    (built.entered thread boundary stores) <;> rfl

/-- There are no other ends than these two, and that no boundary is supplied. -/
theorem dispatchInto_cases {answer : Attempt (Except DispatchError Outcome)} {after : System}
    (h : dispatchInto nested thread host supply work item system = some (answer, after)) :
    (∃ error, supply system = (.error error, after)) ∨
    ∃ boundary built, supply system = (.ok boundary, built) ∧
      ((∃ error stores,
          built.stores.propagateIn thread host (built.contextOf boundary) = (.error error, stores) ∧
          after = (built.entered thread boundary stores).setSlot thread (built.slots.get? thread)) ∨
        ∃ armed stores left ran,
          built.stores.propagateIn thread host (built.contextOf boundary) = (.ok armed, stores) ∧
          invoke nested thread boundary (built.contextOf boundary) work item
            (built.entered thread boundary stores) = some (left, ran) ∧
          after = (tearDown thread host (built.contextOf boundary) armed ran).2.setSlot thread
            (built.slots.get? thread)) := by
  rcases hsupply : supply system with ⟨supplied, built⟩
  cases supplied with
  | error error =>
    rw [dispatchInto, hsupply] at h
    cases h
    exact .inl ⟨error, rfl⟩
  | ok boundary =>
    refine .inr ⟨boundary, built, rfl, ?_⟩
    rcases hcarried : built.stores.propagateIn thread host (built.contextOf boundary) with
      ⟨carried, stores⟩
    cases carried with
    | error error =>
      rw [dispatchInto_of_refused hsupply hcarried] at h
      cases h
      exact .inl ⟨error, stores, rfl, rfl⟩
    | ok armed =>
      rw [dispatchInto_of_carried hsupply hcarried] at h
      obtain ⟨⟨left, ran⟩, hleft, hanswer⟩ := Option.map_eq_some_iff.1 h
      cases hanswer
      exact .inr ⟨armed, stores, left, ran, rfl, hleft, rfl⟩

end

/-- Tearing down concerns the stores only. -/
theorem tearDown_eq (host context : StoreId) (armed : Bool) (system : System) :
    (tearDown thread host context armed system).2 =
      { system with
        stores :=
          if armed then (system.stores.propagateOut thread host context).2
          else system.stores } := by
  rw [tearDown]
  cases armed with
  | false => rfl
  | true => simp only [if_true]

/-! ### Dispatches that have begun -/

/-- A dispatch that has found its boundary, or built it, and has carried its context in. -/
structure Entry (thread : ThreadId) (request : Request) (system : System) where
  boundary : LoaderRef
  built : System
  armed : Bool
  stores : Stores
  supplied : system.target request.target = (.ok boundary, built)
  carried : built.stores.propagateIn thread (system.storeOf request.store)
    (built.contextOf boundary) = (.ok armed, stores)

namespace Entry

/-- The store whose context is carried in. -/
def host (_ : Entry thread request system) : StoreId := system.storeOf request.store

/-- The store of the boundary. -/
def context (entry : Entry thread request system) : StoreId := entry.built.contextOf entry.boundary

/-- The system in which the unit is resolved: the boundary is in the slot of the thread. -/
def inside (entry : Entry thread request system) : System :=
  { entry.built.setSlot thread (some entry.boundary) with stores := entry.stores }

/-- Carries the outputs out. -/
def collect (entry : Entry thread request system) (after : System) :
    Except PropagateError Unit × System :=
  tearDown thread entry.host entry.context entry.armed after

/-- The system that is left behind: the slot is as it was. -/
def leave (entry : Entry thread request system) (after : System) : System :=
  (entry.collect after).2.setSlot thread (entry.built.slots.get? thread)

/-- The contexts on both sides are there, if one was carried in. -/
def Kept (entry : Entry thread request system) (after : System) : Prop :=
  entry.armed = true → (after.stores.get entry.host).isActive thread = true ∧
    (after.stores.get entry.context).isActive thread = true

variable (entry : Entry thread request system)

@[simp] theorem inside_stores : entry.inside.stores = entry.stores := rfl

/-- A dispatch is its invocation, with the outputs carried out and the slot restored. -/
theorem dispatch_eq (depth : Nat) :
    dispatch thread (depth + 1) request system =
      (invoke (dispatch thread depth) thread entry.boundary entry.context request.work request.item
        entry.inside).map fun result =>
          (settle result.1 (entry.collect result.2).1, entry.leave result.2) :=
  dispatchInto_of_carried entry.supplied entry.carried

/-- If the unit or its entry point is not found, that is the answer and nothing runs. -/
theorem dispatch_of_error {found : Except ResolveError LoadedUnit} {resolved : System}
    {error : ResolveError} (depth : Nat)
    (answered : entry.inside.resolve entry.boundary request.work = (.done found, resolved))
    (missing : runnable found = .error error) :
    dispatch thread (depth + 1) request system =
      some (.done (.error (.resolve error)), entry.leave resolved) := by
  rw [entry.dispatch_eq, invoke, answered]
  cases found with
  | error reason =>
    cases missing
    rfl
  | ok unit =>
    rw [runnable] at missing
    cases hentry : unit.entries.find? runEntry with
    | some handler =>
      rw [hentry] at missing
      cases missing
    | none =>
      rw [hentry] at missing
      cases missing
      simp only [hentry, Option.map_some]
      rfl

/-- If there is an entry point, it runs once, in the system that resolving the unit left. -/
theorem dispatch_of_run {found : Except ResolveError LoadedUnit} {resolved ran : System}
    {unit : LoadedUnit} {handler : Handler} {ended : Ended} {depth : Nat}
    (answered : entry.inside.resolve entry.boundary request.work = (.done found, resolved))
    (runs : runnable found = .ok (unit, handler))
    (run : (handler (unit.invocation request.item)).run (dispatch thread depth) thread
      entry.context resolved = some (ended, ran)) :
    dispatch thread (depth + 1) request system =
      some (settle (answerOf unit.info ended) (entry.collect ran).1, entry.leave ran) := by
  have hcalls : entry.inside.calls entry.boundary request.work = some (unit, handler) := by
    rw [calls_of_resolve answered, runs]
    rfl
  rw [entry.dispatch_eq, invoke_of_calls hcalls, answered, run]
  rfl

/-- The outputs are carried out if the contexts on both sides are there. -/
theorem collect_of_kept {after : System} (kept : entry.Kept after) :
    (entry.collect after).1 = .ok () := by
  rw [collect, tearDown]
  cases harmed : entry.armed with
  | false => rfl
  | true =>
    obtain ⟨outside, inside⟩ := kept harmed
    obtain ⟨outputs, houtputs⟩ := Stores.propagateOut_of_isActive inside outside
    simp only [if_true, houtputs, Except.map]

end Entry

end System

end Isolation
