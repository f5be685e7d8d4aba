import Isolation.Proofs.Loader.Answers
import Mathlib.Logic.Function.Basic

/-!
# Requests in steps

A request to a boundary is not one step: it looks whether the boundary is closed, looks into the
cache, asks the parent while other requests go on, and only then looks again or searches the
archives itself. The parent is a host here, which is asked in one step.

## Main definitions

* `Loaders.Call` — where a request or a closing is
* `Loaders.Calls` — loaders with any number of calls on one boundary
* `Loaders.Moves` — what one step of a call does, as rules

## Main results

* `Loaders.exists_moves` — every step of a call goes by the rules
* `Loaders.Placed.run_put_resolve` — a request whose steps follow each other is answered as a whole
-/

namespace Isolation

/-- What the host finds for a name: the unit it has, a new one, none, or an error. -/
theorem Host.resolve_cases (files : FileSystem) (symbol : String) (serial : Nat) (host : Host) :
    (∃ unit, host.cache.find? symbol = some unit ∧
      host.resolve files symbol serial = (.ok unit, host, serial)) ∨
    (host.cache.find? symbol = none ∧ findUnit files host.opened symbol ≠ .ok none ∧
      ∃ unit, host.resolve files symbol serial =
        (.ok unit, { host with cache := host.cache.insert symbol unit }, serial + 1)) ∨
    (host.cache.find? symbol = none ∧ findUnit files host.opened symbol = .ok none ∧
      host.resolve files symbol serial = (.error (.notFound symbol), host, serial)) ∨
    ∃ error, host.resolve files symbol serial = (.error (.archive error), host, serial) := by
  rw [Host.resolve]
  cases hknown : host.cache.find? symbol with
  | some unit => exact .inl ⟨unit, rfl, rfl⟩
  | none =>
    obtain ⟨error, -, h⟩ | ⟨hfound, h⟩ | ⟨located, hfound, h⟩ := materialize_cases files host.opened
      host.id host.registry symbol serial host.cache
    · exact .inr (.inr (.inr ⟨error, by rw [h]⟩))
    · exact .inr (.inr (.inl ⟨rfl, hfound, by rw [h]⟩))
    · exact .inr (.inl ⟨rfl, by simp [hfound], _, by rw [h]⟩)

namespace Loaders

/-- Where a request to a boundary, or a closing of it, is. A request for an isolated name is
answered by the boundary itself. Otherwise the parent is asked, after a look into the cache if the
name is not excluded; a unit of the parent is checked, and if there is none the boundary falls back
to its search path. -/
inductive Call
  | starting (symbol : String)
  | isolating (symbol : String)
  | looking (symbol : String)
  | asking (symbol : String)
  | checking (symbol : String) (unit : LoadedUnit)
  | falling (symbol : String)
  | finished (symbol : String) (answer : Attempt (Except ResolveError LoadedUnit))
  | closing
  | closed

namespace Call

/-- Where a request that the boundary is open for goes first. -/
def routed (boundary : Boundary) (symbol : String) : Call :=
  match boundary.policy.route symbol with
  | .isolated => isolating symbol
  | .excluded => asking symbol
  | .delegated => looking symbol

/-- Where a request goes when the parent has answered. -/
def answered (boundary : Boundary) (symbol : String) :
    Attempt (Except ResolveError LoadedUnit) → Call
  | .done (.ok unit) => checking symbol unit
  | .done (.error (.notFound missing)) =>
    match boundary.policy.route symbol with
    | .delegated => falling symbol
    | _ => finished symbol (.done (.error (.notFound missing)))
  | answer => finished symbol answer

/-- The next step of a call on a boundary: a section that it runs under its locks, or the call of
its parent. -/
def step (files : FileSystem) (ref : LoaderRef) (boundary : Boundary) (loaders : Loaders) :
    Call → Call × Loaders
  | starting symbol =>
    if boundary.isClosed then (finished symbol (.done (.error (.closed boundary.id))), loaders)
    else (routed boundary symbol, loaders)
  | isolating symbol =>
    let done := loaders.keepBoundary ref (boundary.resolveIsolated files symbol loaders.nextSerial)
    (finished symbol done.1, done.2)
  | looking symbol =>
    match boundary.cache.find? symbol with
    | some unit => (finished symbol (.done (.ok unit)), loaders)
    | none => (asking symbol, loaders)
  | asking symbol =>
    -- the boundary holds no lock now, so it may be closed before the next step
    let done := loaders.resolve files symbol boundary.parent
    (answered boundary symbol done.1, done.2)
  | checking symbol unit =>
    let done := unlessClosed ref boundary unit loaders
    (finished symbol done.1, done.2)
  | falling symbol =>
    let done := loaders.keepBoundary ref (boundary.resolveFallback files symbol loaders.nextSerial)
    (finished symbol done.1, done.2)
  | finished symbol answer => (finished symbol answer, loaders)
  | closing => (closed, loaders.close ref)
  | closed => (closed, loaders)

end Call

/-- Loaders with calls on one boundary, of which there may be any number. -/
structure Calls where
  loaders : Loaders
  calls : Nat → Call

namespace Calls

/-- The next step of one of the calls. -/
def step (files : FileSystem) (ref : LoaderRef) (state : Calls) (call : Nat) : Calls :=
  match state.loaders.boundary? ref with
  | none => state
  | some boundary =>
    let done := (state.calls call).step files ref boundary state.loaders
    { loaders := done.2, calls := Function.update state.calls call done.1 }

/-- The steps of several calls, in the order of a schedule. -/
def run (files : FileSystem) (ref : LoaderRef) (state : Calls) (schedule : List Nat) : Calls :=
  schedule.foldl (step files ref) state

/-- The name that the boundary makes a unit for at the next step of a call. -/
def makes (files : FileSystem) (ref : LoaderRef) (state : Calls) (call : Nat) : Option String :=
  match state.calls call with
  | .isolating symbol | .falling symbol =>
    if (state.step files ref call).loaders.nextSerial = state.loaders.nextSerial then none
    else some symbol
  | _ => none

/-- The names that the boundary makes units for, in the order of a schedule. -/
def made (files : FileSystem) (ref : LoaderRef) : List Nat → Calls → List String
  | [], _ => []
  | call :: schedule, state =>
    (state.makes files ref call).toList ++ made files ref schedule (state.step files ref call)

end Calls

/-! ### What a step does -/

/-- The host has nothing under a name, and will find nothing. -/
def Lacks (files : FileSystem) (host : Host) (symbol : String) : Prop :=
  host.cache.find? symbol = none ∧ findUnit files host.opened symbol = .ok none

/-- A call that is about to search the archives of the boundary. -/
inductive Call.Searches (symbol : String) : Call → Prop
  | isolating : Searches symbol (.isolating symbol)
  | falling : Searches symbol (.falling symbol)

/-- What one step of a call does to a boundary, to the host that is its parent, and to the number of
the next unit. -/
inductive Moves (files : FileSystem) (boundary : Boundary) (host : Host) (serial : Nat) :
    Call → Call → Boundary → Host → Nat → Prop
  | refused {symbol} (shut : boundary.isClosed = true) :
      Moves files boundary host serial (.starting symbol)
        (.finished symbol (.done (.error (.closed boundary.id)))) boundary host serial
  | routed {symbol} (unshut : boundary.isClosed = false) :
      Moves files boundary host serial (.starting symbol) (.routed boundary symbol) boundary host
        serial
  | known {symbol unit} (known : boundary.cache.find? symbol = some unit) :
      Moves files boundary host serial (.looking symbol) (.finished symbol (.done (.ok unit)))
        boundary host serial
  | unknown {symbol} (unknown : boundary.cache.find? symbol = none) :
      Moves files boundary host serial (.looking symbol) (.asking symbol) boundary host serial
  | hostKnown {symbol unit} (known : host.cache.find? symbol = some unit) :
      Moves files boundary host serial (.asking symbol) (.checking symbol unit) boundary host serial
  | hostMade {symbol unit} (unknown : host.cache.find? symbol = none)
      (found : findUnit files host.opened symbol ≠ .ok none) :
      Moves files boundary host serial (.asking symbol) (.checking symbol unit) boundary
        { host with cache := host.cache.insert symbol unit } (serial + 1)
  | hostLacks {symbol} (lacks : Lacks files host symbol)
      (route : boundary.policy.route symbol = .delegated) :
      Moves files boundary host serial (.asking symbol) (.falling symbol) boundary host serial
  | hostFailed {symbol error} :
      Moves files boundary host serial (.asking symbol) (.finished symbol (.done (.error error)))
        boundary host serial
  | passed {symbol unit} (unshut : boundary.isClosed = false) :
      Moves files boundary host serial (.checking symbol unit) (.finished symbol (.done (.ok unit)))
        boundary host serial
  | late {symbol unit} (shut : boundary.isClosed = true) :
      Moves files boundary host serial (.checking symbol unit)
        (.finished symbol (.done (.error (.closed boundary.id)))) boundary host serial
  | again {call symbol unit} (searches : call.Searches symbol)
      (known : boundary.cache.find? symbol = some unit) :
      Moves files boundary host serial call (.finished symbol (.done (.ok unit))) boundary host
        serial
  | missed {call symbol error sets} (searches : call.Searches symbol)
      (same : sets.isNone = boundary.sets.isNone) :
      Moves files boundary host serial call (.finished symbol (.done (.error error)))
        { boundary with sets } host serial
  | made {call symbol unit sets} (searches : call.Searches symbol)
      (unshut : boundary.isClosed = false) (unknown : boundary.cache.find? symbol = none)
      (same : sets.isNone = boundary.sets.isNone) :
      Moves files boundary host serial call (.finished symbol (.done (.ok unit)))
        { boundary with sets, cache := boundary.cache.insert symbol unit } host (serial + 1)
  | closes : Moves files boundary host serial .closing .closed boundary.close host serial
  | finished {symbol answer} :
      Moves files boundary host serial (.finished symbol answer) (.finished symbol answer) boundary
        host serial
  | closed : Moves files boundary host serial .closed .closed boundary host serial

/-- A boundary stands at its place, and a host is its parent. -/
structure Placed (ref : LoaderRef) (loaders : Loaders) (boundary : Boundary) (host : Host) :
    Prop where
  here : loaders.boundary? ref = some boundary
  above : loaders.get? boundary.parent = some (.host host)

section Steps

variable {files : FileSystem} {ref : LoaderRef} {loaders : Loaders} {boundary boundary' : Boundary}
  {host host' : Host} {serial serial' : Nat} {call call' : Call} {symbol : String}
  {unit other : LoadedUnit}

theorem Placed.get? (placed : Placed ref loaders boundary host) :
    loaders.get? ref = some (.boundary boundary) := by
  have h := placed.here
  rw [boundary?] at h
  split at h
  · next found hfound => rw [hfound, Option.some.inj h]
  · cases h

theorem Placed.parent_ne (placed : Placed ref loaders boundary host) : boundary.parent ≠ ref := by
  intro h
  have hhost := placed.above
  rw [h, placed.get?] at hhost
  cases hhost

theorem Placed.setBoundary (placed : Placed ref loaders boundary host)
    (same : boundary'.parent = boundary.parent) :
    Placed ref { loaders.set ref (.boundary boundary') with nextSerial := serial } boundary'
      host where
  here := by
    have h : Loaders.get? { loaders.set ref (.boundary boundary') with nextSerial := serial } ref =
        some (.boundary boundary') := (get?_set (get?_eq_some_lt placed.get?) _).trans (if_pos rfl)
    rw [boundary?, h]
  above := by
    rw [same]
    refine (get?_set (get?_eq_some_lt placed.get?) _).trans ?_
    rw [if_neg placed.parent_ne]
    exact placed.above

theorem Placed.setHost (placed : Placed ref loaders boundary host) :
    Placed ref { loaders.set boundary.parent (.host host') with nextSerial := serial } boundary
      host' where
  here := by
    have h : Loaders.get? { loaders.set boundary.parent (.host host') with nextSerial := serial }
        ref = some (.boundary boundary) := by
      refine (get?_set (get?_eq_some_lt placed.above) _).trans ?_
      rw [if_neg placed.parent_ne.symm]
      exact placed.get?
    rw [boundary?, h]
  above := (get?_set (get?_eq_some_lt placed.above) _).trans (if_pos rfl)

theorem Placed.close (placed : Placed ref loaders boundary host) :
    Placed ref (loaders.close ref) boundary.close host := by
  rw [Loaders.close, placed.get?]
  exact placed.setBoundary rfl

/-- A search of the boundary in its archives goes by the rules. -/
theorem moves_of_materialize {archives : List OpenArchive} {sets : Option OpenSets}
    {answer : Except ResolveError LoadedUnit} {cache : StringMap LoadedUnit}
    (searches : call.Searches symbol) (unshut : boundary.isClosed = false)
    (unknown : boundary.cache.find? symbol = none) (same : sets.isNone = boundary.sets.isNone)
    (h : materialize files archives boundary.id boundary.registry symbol serial boundary.cache =
      (answer, cache, serial')) :
    Moves files boundary host serial call (.finished symbol (.done answer))
      { boundary with sets, cache } host serial' := by
  obtain ⟨error, -, hsearch⟩ | ⟨-, hsearch⟩ | ⟨located, -, hsearch⟩ := materialize_cases files
    archives boundary.id boundary.registry symbol serial boundary.cache
  · obtain ⟨rfl, rfl, rfl⟩ : _ ∧ _ ∧ _ := by simpa using hsearch.symm.trans h
    exact .missed searches same
  · obtain ⟨rfl, rfl, rfl⟩ : _ ∧ _ ∧ _ := by simpa using hsearch.symm.trans h
    exact .missed searches same
  · obtain ⟨rfl, rfl, rfl⟩ : _ ∧ _ ∧ _ := by simpa using hsearch.symm.trans h
    exact .made searches unshut unknown same

/-- The section of a boundary that searches its own archives. -/
theorem moves_of_resolveIsolated (searches : call.Searches symbol) :
    Moves files boundary host serial call
      (.finished symbol (.done (boundary.resolveIsolated files symbol serial).1))
      (boundary.resolveIsolated files symbol serial).2.1 host
      (boundary.resolveIsolated files symbol serial).2.2 := by
  cases hknown : boundary.cache.find? symbol with
  | some unit =>
    simp only [Boundary.resolveIsolated, hknown]
    exact .again searches hknown
  | none =>
    cases hsets : boundary.sets with
    | none =>
      simp only [Boundary.resolveIsolated, hknown, hsets]
      exact .missed searches rfl
    | some sets =>
      simp only [Boundary.resolveIsolated, hknown, hsets]
      obtain ⟨answer, cache, serial', hsearch⟩ := exists_search files sets.isolated boundary.id
        boundary.registry symbol serial boundary.cache
      rw [hsearch]
      exact moves_of_materialize searches (by simp [Boundary.isClosed, hsets]) hknown
        (by simp [hsets]) hsearch

/-- The section of a boundary that searches all archives on its search path. -/
theorem moves_of_resolveFallback (searches : call.Searches symbol) :
    Moves files boundary host serial call
      (.finished symbol (.done (boundary.resolveFallback files symbol serial).1))
      (boundary.resolveFallback files symbol serial).2.1 host
      (boundary.resolveFallback files symbol serial).2.2 := by
  cases hknown : boundary.cache.find? symbol with
  | some unit =>
    simp only [Boundary.resolveFallback, hknown]
    exact .again searches hknown
  | none =>
    cases hsets : boundary.sets with
    | none =>
      simp only [Boundary.resolveFallback, hknown, hsets]
      exact .missed searches rfl
    | some sets =>
      simp only [Boundary.resolveFallback, hknown, hsets]
      cases boundary.openFallback files sets with
      | error error => exact .missed searches rfl
      | ok opened =>
        obtain ⟨answer, cache, serial', hsearch⟩ := exists_search files opened boundary.id
          boundary.registry symbol serial boundary.cache
        simp only [hsearch]
        exact moves_of_materialize searches (by simp [Boundary.isClosed, hsets]) hknown
          (by simp [hsets]) hsearch

/-- What no step changes. -/
theorem Moves.same (moves : Moves files boundary host serial call call' boundary' host' serial') :
    boundary'.policy = boundary.policy ∧ boundary'.parent = boundary.parent ∧
      boundary'.id = boundary.id ∧ host'.opened = host.opened := by
  cases moves <;> exact ⟨rfl, rfl, rfl, rfl⟩

/-- A boundary that has searched is still at its place. -/
theorem Placed.keepBoundary {result : Except ResolveError LoadedUnit × Boundary × Nat}
    (placed : Placed ref loaders boundary host)
    (moves : Moves files boundary host serial call call' result.2.1 host serial') :
    Placed ref (loaders.keepBoundary ref result).2 result.2.1 host :=
  placed.setBoundary moves.same.2.1

/-- Every step of a call goes by the rules. -/
theorem exists_moves (placed : Placed ref loaders boundary host) (call : Call) :
    ∃ boundary' host', Placed ref (call.step files ref boundary loaders).2 boundary' host' ∧
      Moves files boundary host loaders.nextSerial call
        (call.step files ref boundary loaders).1 boundary' host'
        (call.step files ref boundary loaders).2.nextSerial := by
  -- the cases are the places that a call may be at, and the rules are what its step may come to
  cases call with
  | starting symbol =>
    rw [Call.step]
    split
    · next shut => exact ⟨boundary, host, placed, .refused shut⟩
    · next unshut => exact ⟨boundary, host, placed, .routed (by simpa using unshut)⟩
  | isolating symbol =>
    have hmoves : Moves files boundary host loaders.nextSerial (.isolating symbol) _ _ _ _ :=
      moves_of_resolveIsolated .isolating
    exact ⟨_, host, placed.keepBoundary hmoves, hmoves⟩
  | looking symbol =>
    rw [Call.step]
    cases hknown : boundary.cache.find? symbol with
    | some unit => exact ⟨boundary, host, placed, .known hknown⟩
    | none => exact ⟨boundary, host, placed, .unknown hknown⟩
  | asking symbol =>
    have hresolve : loaders.resolve files symbol boundary.parent =
        loaders.keepHost boundary.parent (host.resolve files symbol loaders.nextSerial) := by
      rw [resolve, placed.above]
    rw [Call.step, hresolve]
    obtain ⟨unit, hknown, h⟩ | ⟨hunknown, hfound, unit, h⟩ | ⟨hunknown, hnone, h⟩ | ⟨error, h⟩ :=
      host.resolve_cases files symbol loaders.nextSerial
    · rw [h]
      exact ⟨boundary, host, placed.setHost, .hostKnown hknown⟩
    · rw [h]
      exact ⟨boundary, _, placed.setHost, .hostMade hunknown hfound⟩
    · rw [h]
      refine ⟨boundary, host, placed.setHost, ?_⟩
      simp only [keepHost, Call.answered]
      split
      · next route => exact .hostLacks ⟨hunknown, hnone⟩ route
      · exact .hostFailed
    · rw [h]
      exact ⟨boundary, host, placed.setHost, .hostFailed⟩
  | checking symbol unit =>
    rw [Call.step, unlessClosed, placed.here]
    simp only
    split
    · next shut => exact ⟨boundary, host, placed, .late shut⟩
    · next unshut => exact ⟨boundary, host, placed, .passed (by simpa using unshut)⟩
  | falling symbol =>
    have hmoves : Moves files boundary host loaders.nextSerial (.falling symbol) _ _ _ _ :=
      moves_of_resolveFallback .falling
    exact ⟨_, host, placed.keepBoundary hmoves, hmoves⟩
  | finished symbol answer => exact ⟨boundary, host, placed, .finished⟩
  | closing =>
    refine ⟨boundary.close, host, placed.close, ?_⟩
    have hserial : (loaders.close ref).nextSerial = loaders.nextSerial := by
      rw [Loaders.close]
      split <;> rfl
    rw [Call.step, hserial]
    exact .closes
  | closed => exact ⟨boundary, host, placed, .closed⟩

variable {state : Calls}

theorem Placed.step (placed : Placed ref state.loaders boundary host) (call : Nat) :
    state.step files ref call =
      { loaders := ((state.calls call).step files ref boundary state.loaders).2
        calls := Function.update state.calls call
          ((state.calls call).step files ref boundary state.loaders).1 } := by
  rw [Calls.step, placed.here]

/-! ### A request whose steps follow each other -/

/-- Loaders where one of the calls has come to some place. -/
def Calls.put (calls : Nat → Call) (call : Nat) (loaders : Loaders) (place : Call) : Calls :=
  { loaders, calls := Function.update calls call place }

section Alone

variable {calls : Nat → Call} {number steps : Nat}
  {answer : Attempt (Except ResolveError LoadedUnit)}

theorem Placed.run_put (placed : Placed ref loaders boundary host) :
    (Calls.put calls number loaders call).run files ref (List.replicate (steps + 1) number) =
      (Calls.put calls number (call.step files ref boundary loaders).2
        (call.step files ref boundary loaders).1).run files ref (List.replicate steps number) := by
  have hstep : (Calls.put calls number loaders call).step files ref number =
      Calls.put calls number (call.step files ref boundary loaders).2
        (call.step files ref boundary loaders).1 := by
    have placed' : Placed ref (Calls.put calls number loaders call).loaders boundary host := placed
    rw [placed'.step]
    simp only [Calls.put, Function.update_self, Function.update_idem]
  rw [List.replicate_succ, Calls.run, List.foldl_cons, hstep]
  rfl

theorem Placed.run_put_finished (placed : Placed ref loaders boundary host) :
    (Calls.put calls number loaders (.finished symbol answer)).run files ref
        (List.replicate steps number) =
      Calls.put calls number loaders (.finished symbol answer) := by
  induction steps with
  | zero => rfl
  | succ steps ih => rw [placed.run_put, Call.step, ih]

theorem Placed.run_put_checking (placed : Placed ref loaders boundary host) :
    (Calls.put calls number loaders (.checking symbol unit)).run files ref
        (List.replicate (steps + 1) number) =
      Calls.put calls number (unlessClosed ref boundary unit loaders).2
        (.finished symbol (unlessClosed ref boundary unit loaders).1) := by
  have hsame : (unlessClosed ref boundary unit loaders).2 = loaders := by
    rw [unlessClosed, placed.here]
    exact (apply_ite Prod.snd ..).trans (ite_self _)
  rw [placed.run_put, Call.step]
  simp only [hsame]
  exact placed.run_put_finished

/-- The parent answers and leaves the boundary as it is. -/
theorem Placed.exists_asked (placed : Placed ref loaders boundary host) (files : FileSystem)
    (symbol : String) :
    ∃ after host' answer, loaders.resolve files symbol boundary.parent = (.done answer, after) ∧
      Placed ref after boundary host' := by
  rw [resolve, placed.above]
  exact ⟨_, _, _, rfl, placed.setHost⟩

/-- A request whose steps follow each other ends as if it were one step. -/
theorem Placed.run_put_resolve (placed : Placed ref loaders boundary host)
    (below : boundary.parent < ref) :
    (Calls.put calls number loaders (.starting symbol)).run files ref (List.replicate 4 number) =
      Calls.put calls number (loaders.resolve files symbol ref).2
        (.finished symbol (loaders.resolve files symbol ref).1) := by
  obtain ⟨after, host', answer, hasked, placed'⟩ := placed.exists_asked files symbol
  -- the cases are those of the whole request; a call that is over does nothing in the steps left
  rw [placed.run_put, Call.step, resolve, placed.get?]
  simp only
  cases hshut : boundary.isClosed with
  | true => exact placed.run_put_finished
  | false =>
    simp only [Bool.false_eq_true, if_false, Call.routed]
    cases route : boundary.policy.route symbol with
    | isolated =>
      simp only
      rw [placed.run_put, Call.step]
      exact (placed.keepBoundary (moves_of_resolveIsolated .isolating)).run_put_finished
    | excluded =>
      simp only [if_pos below, hasked]
      rw [placed.run_put, Call.step, hasked]
      cases answer with
      | ok unit => exact placed'.run_put_checking
      | error error =>
        have hanswered : Call.answered boundary symbol (.done (.error error)) =
            .finished symbol (.done (.error error)) := by
          cases error <;> simp [Call.answered, route]
        simp only [hanswered]
        exact placed'.run_put_finished
    | delegated =>
      simp only [if_pos below, hasked]
      cases hknown : boundary.cache.find? symbol with
      | some unit =>
        rw [placed.run_put, Call.step, hknown]
        exact placed.run_put_finished
      | none =>
        rw [placed.run_put, Call.step, hknown]
        simp only
        rw [placed.run_put, Call.step, hasked]
        cases answer with
        | ok unit => exact placed'.run_put_checking
        | error error =>
          cases error with
          | notFound missing =>
            simp only [Call.answered, route, placed'.here]
            rw [placed'.run_put, Call.step]
            exact (placed'.keepBoundary (moves_of_resolveFallback .falling)).run_put_finished
          | _ => exact placed'.run_put_finished

end Alone

end Steps

end Loaders

end Isolation
