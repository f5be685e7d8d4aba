import Isolation.Proofs.System.Answer
import Isolation.Proofs.System.Cleanup
import Isolation.Proofs.System.Steps

/-!
# Contexts that cross a boundary

A host with a context dispatches work into a boundary that has a store of its own, in which the
thread has no context yet. The work then starts with what the context of the host starts from and
without outputs. While it runs, the outputs that it sets are in its own context only, and the host
finds them in the end: of each key the last value, on top of what was there.

## Main definitions

* `System.Crossing` — a context is about to cross into another store
* `System.Entry.calls`, `System.Entry.resolved` — the entry point that is called, and when
* `System.Crosses`, `System.CrossesAll` — dispatches that were done, with the outputs of their work

## Main results

* `System.Crossing.context?_inside`, `System.Crossing.context?_host` — how the work starts
* `System.Crossing.context?_after_puts` — what the host has in the end
* `System.Crossing.dispatch_overrides` — one dispatch, and any number of them
-/

namespace Isolation

namespace System

variable {thread : ThreadId} {request : Request} {system : System} {context : Context}
  {host : StoreId}

/-! ### The entry point of a dispatch -/

namespace Entry

variable (entry : Entry thread request system)

/-- The entry point that is called, with its unit; none if it is not found. -/
def calls : Option (LoadedUnit × Handler) := entry.inside.calls entry.boundary request.work

/-- The system in which it is called. -/
def resolved : System := (entry.inside.resolve entry.boundary request.work).2

@[simp] theorem stores_resolved : entry.resolved.stores = entry.stores := rfl

/-- If no entry point is called, the dispatch is over. -/
theorem dispatch_of_calls_none (h : entry.calls = none) (depth : Nat) :
    ∃ answer, dispatch thread (depth + 1) request system =
      some (answer, entry.leave entry.resolved) := by
  obtain ⟨answer, hanswer⟩ := invoke_of_calls_none h
  refine ⟨settle answer (entry.collect entry.resolved).1, ?_⟩
  rw [entry.dispatch_eq, hanswer, Option.map_some, resolved]

/-- If it is called and comes to an end, so does the dispatch. -/
theorem dispatch_of_calls {unit : LoadedUnit} {handler : Handler} {ended : Ended} {ran : System}
    {depth : Nat} (h : entry.calls = some (unit, handler))
    (run : (handler (unit.invocation request.item)).run (dispatch thread depth) thread
      entry.context entry.resolved = some (ended, ran)) :
    dispatch thread (depth + 1) request system =
      some (settle (answerOf unit.info ended) (entry.collect ran).1, entry.leave ran) := by
  rw [resolved] at run
  rw [entry.dispatch_eq, invoke_of_calls h, run, Option.map_some, Option.map_some]

/-- What is left behind of the contexts, if one was carried in. -/
theorem context?_leave (armed : entry.armed = true) (different : entry.host ≠ entry.context)
    (after : System) (id : StoreId) :
    (entry.leave after).stores.context? id thread =
      if id = entry.context then none
      else if id = entry.host then
        (after.stores.context? entry.host thread).map fun context =>
          { context with
            output := context.output.override
              (Stores.outputsOf (after.stores.context? entry.context thread)) }
      else after.stores.context? id thread := by
  rw [leave, collect, tearDown_eq, stores_setSlot, armed, if_pos rfl]
  exact Stores.context?_propagateOut different

end Entry

/-! ### Crossing into another store -/

/-- The host has a context, and the boundary another store, in which there is none. -/
structure Crossing (thread : ThreadId) (request : Request) (system : System) (context : Context)
    where
  boundary : LoaderRef
  built : System
  supplied : system.target request.target = (.ok boundary, built)
  active : system.stores.context? (system.storeOf request.store) thread = some context
  different : system.storeOf request.store ≠ built.contextOf boundary
  inactive : built.stores.context? (built.contextOf boundary) thread = none

namespace Crossing

variable (crossing : Crossing thread request system context)

theorem context?_built (id : StoreId) :
    crossing.built.stores.context? id thread = system.stores.context? id thread := by
  have h : (system.target request.target).2.stores.context? id thread =
      system.stores.context? id thread := context?_target system request.target id
  rwa [crossing.supplied] at h

/-- Such a context is always carried in. -/
def entry : Entry thread request system where
  boundary := crossing.boundary
  built := crossing.built
  armed := true
  stores := crossing.built.stores.set (crossing.built.contextOf crossing.boundary)
    ((crossing.built.stores.get (crossing.built.contextOf crossing.boundary)).setContext thread
      (.ofSnapshot context.snapshot))
  supplied := crossing.supplied
  carried := by
    have active : crossing.built.stores.context? (system.storeOf request.store) thread =
        some context := by
      rw [crossing.context?_built, crossing.active]
    rw [Stores.propagateIn_eq crossing.different active, crossing.inactive]

theorem host_ne_context : crossing.entry.host ≠ crossing.entry.context := crossing.different

/-- Only the store of the boundary has changed when the work starts. -/
theorem context?_of_ne {id : StoreId} (h : id ≠ crossing.entry.context) :
    crossing.entry.stores.context? id thread = system.stores.context? id thread := by
  rw [← crossing.context?_built id]
  exact Stores.context?_set_of_ne h _

theorem context?_host :
    crossing.entry.stores.context? crossing.entry.host thread = some context := by
  rw [crossing.context?_of_ne crossing.host_ne_context]
  exact crossing.active

/-- The work starts with what the context of the host starts from. -/
theorem context?_inside :
    crossing.entry.stores.context? crossing.entry.context thread =
      some { input := context.input, output := ∅, env := context.env } := by
  have h : crossing.entry.stores.context? crossing.entry.context thread =
      ((crossing.built.stores.get (crossing.built.contextOf crossing.boundary)).setContext thread
        (.ofSnapshot context.snapshot)).current? thread := Stores.context?_set_self _
  rw [h, Store.current?_setContext, if_pos rfl]
  rfl

/-- If no more was done to the stores than to set outputs, these are added to those of the host, and
nothing else has changed. -/
theorem context?_after_puts {ran : System} {writes : List (String × String)}
    (h : ran.stores = crossing.entry.stores.puts thread crossing.entry.context writes)
    (id : StoreId) :
    (crossing.entry.leave ran).stores.context? id thread =
      if id = crossing.entry.host then
        some { context with output := context.output.override (.ofList writes) }
      else system.stores.context? id thread := by
  have hhost : ran.stores.context? crossing.entry.host thread = some context := by
    rw [h, Stores.context?_puts_of_ne crossing.host_ne_context, crossing.context?_host]
  have houtputs : Stores.outputsOf (ran.stores.context? crossing.entry.context thread) =
      .ofList writes := by
    rw [h, Stores.context?_puts_self, crossing.context?_inside, StringMap.ofList_eq_insertAll]
    rfl
  rw [crossing.entry.context?_leave rfl crossing.host_ne_context, hhost, houtputs]
  by_cases hcontext : id = crossing.entry.context
  -- the context that was carried in has ended, and there was none before
  · subst hcontext
    rw [if_pos rfl, if_neg crossing.host_ne_context.symm, ← crossing.context?_built]
    exact crossing.inactive.symm
  · rw [if_neg hcontext]
    by_cases hid : id = crossing.entry.host
    · rw [if_pos hid, if_pos hid, Option.map_some]
    · rw [if_neg hid, if_neg hid, h, Stores.context?_puts_of_ne hcontext,
        crossing.context?_of_ne hcontext]

/-- Outputs are carried out without an error. -/
theorem collect_after_puts {ran : System} {writes : List (String × String)}
    (h : ran.stores = crossing.entry.stores.puts thread crossing.entry.context writes) :
    (crossing.entry.collect ran).1 = .ok () := by
  apply crossing.entry.collect_of_kept
  intro _
  rw [Stores.isActive_eq, Stores.isActive_eq, h,
    Stores.context?_puts_of_ne crossing.host_ne_context, Stores.context?_puts_self,
    crossing.context?_host, crossing.context?_inside]
  exact ⟨rfl, rfl⟩

variable {unit : LoadedUnit} {handler : Handler} {ended : Ended} {ran : System} {depth : Nat}
  {writes : List (String × String)}

/-- What such a dispatch comes to, once its work has come to an end. -/
theorem dispatch_of_reaches (calls : crossing.entry.calls = some (unit, handler))
    (calm : (handler (unit.invocation request.item)).Calm)
    (alone : (handler (unit.invocation request.item)).Alone)
    (reaches : Work.Reaches (dispatch thread depth) thread crossing.entry.context
      (handler (unit.invocation request.item)) crossing.entry.resolved writes (.ofEnded ended) ran) :
    dispatch thread (depth + 1) request system =
        some (answerOf unit.info ended, crossing.entry.leave ran) ∧
      ∀ id, (crossing.entry.leave ran).stores.context? id thread =
        if id = crossing.entry.host then
          some { context with output := context.output.override (.ofList writes) }
        else system.stores.context? id thread := by
  have hstores := reaches.stores_eq calm alone
  constructor
  · rw [crossing.entry.dispatch_of_calls calls reaches.run_eq_some,
      crossing.collect_after_puts hstores, settle_ok]
  · exact crossing.context?_after_puts hstores

theorem dispatch_of_idle (calls : crossing.entry.calls = none) (depth : Nat) :
    ∃ answer, dispatch thread (depth + 1) request system =
        some (answer, crossing.entry.leave crossing.entry.resolved) ∧
      ∀ id, (crossing.entry.leave crossing.entry.resolved).stores.context? id thread =
        system.stores.context? id thread := by
  obtain ⟨answer, hanswer⟩ := crossing.entry.dispatch_of_calls_none calls depth
  refine ⟨answer, hanswer, ?_⟩
  intro id
  have hnone : crossing.entry.resolved.stores =
      crossing.entry.stores.puts thread crossing.entry.context [] := rfl
  rw [crossing.context?_after_puts hnone]
  by_cases hid : id = crossing.entry.host
  · rw [if_pos hid, hid]
    exact crossing.active.symm
  · rw [if_neg hid]

end Crossing

/-! ### One dispatch after the other -/

/-- A dispatch in which a context crosses into another store, and back. If an entry point is called,
it neither starts nor ends contexts and dispatches nothing; the outputs that it sets are listed. -/
inductive Crosses (thread : ThreadId) (host : StoreId) (system : System) :
    List (String × String) → System → Prop
  | idle {request context depth answer after} (crossing : Crossing thread request system context)
      (on : crossing.entry.host = host) (calls : crossing.entry.calls = none)
      (done : dispatch thread (depth + 1) request system = some (answer, after)) :
      Crosses thread host system [] after
  | work {request context depth answer after unit handler writes ended ran}
      (crossing : Crossing thread request system context) (on : crossing.entry.host = host)
      (calls : crossing.entry.calls = some (unit, handler))
      (calm : (handler (unit.invocation request.item)).Calm)
      (alone : (handler (unit.invocation request.item)).Alone)
      (reaches : Work.Reaches (dispatch thread depth) thread crossing.entry.context
        (handler (unit.invocation request.item)) crossing.entry.resolved writes (.ofEnded ended)
        ran)
      (done : dispatch thread (depth + 1) request system = some (answer, after)) :
      Crosses thread host system writes after

/-- Several such dispatches, one after the other, each into a boundary of its own choice. -/
inductive CrossesAll (thread : ThreadId) (host : StoreId) :
    System → List (List (String × String)) → System → Prop
  | nil (start) : CrossesAll thread host start [] start
  | cons {start between after writes runs} (first : Crosses thread host start writes between)
      (others : CrossesAll thread host between runs after) :
      CrossesAll thread host start (writes :: runs) after

theorem Crosses.context?_host {writes : List (String × String)} {after : System}
    (h : Crosses thread host system writes after)
    (active : system.stores.context? host thread = some context) :
    after.stores.context? host thread =
      some { context with output := context.output.override (.ofList writes) } := by
  cases h with
  | @idle _ _ depth _ _ crossing on calls done =>
    obtain ⟨answer, hdispatch, hcontexts⟩ := crossing.dispatch_of_idle calls depth
    cases done.symm.trans hdispatch
    rw [hcontexts, active, StringMap.override_ofList, StringMap.insertAll_nil]
  | work crossing on calls calm alone reaches done =>
    obtain ⟨hdispatch, hcontexts⟩ := crossing.dispatch_of_reaches calls calm alone reaches
    cases done.symm.trans hdispatch
    have hactive : system.stores.context? crossing.entry.host thread = some _ := crossing.active
    rw [on, active] at hactive
    cases hactive
    rw [hcontexts, if_pos on.symm]

/-- The host collects the outputs of all dispatches in their order. -/
theorem CrossesAll.context?_host {runs : List (List (String × String))} {after : System}
    (h : CrossesAll thread host system runs after)
    (active : system.stores.context? host thread = some context) :
    after.stores.context? host thread =
      some { context with
        output := (runs.map StringMap.ofList).foldl StringMap.override context.output } := by
  -- each dispatch leaves the host with a context, from which the next one crosses
  induction h generalizing context with
  | nil => exact active
  | cons first _ ih => exact ih (first.context?_host active)

namespace Crossing

variable (crossing : Crossing thread request system context)

/-- The context of a host crosses into another store and comes back with the outputs of the work. If
no entry point is called, the dispatch leaves all contexts of the thread as they were. Otherwise, if
the work leaves contexts alone and dispatches nothing, it starts with the inputs and the environment
of the host and without outputs, the context of the host stays as it is while the work runs, and then
the dispatch comes back, in whatever way the work ended: what has changed in the contexts of the
thread is that the outputs of the host are overridden, key by key, by the last value that the work
set. After several dispatches of this kind the outputs of the host are overridden by those of each in
turn. -/
theorem dispatch_overrides (depth : Nat) :
    (crossing.entry.calls = none →
      ∃ answer after, dispatch thread (depth + 1) request system = some (answer, after) ∧
        ∀ id, after.stores.context? id thread = system.stores.context? id thread) ∧
    (∀ unit handler, crossing.entry.calls = some (unit, handler) →
      (handler (unit.invocation request.item)).Calm →
      (handler (unit.invocation request.item)).Alone →
      crossing.entry.resolved.stores.context? crossing.entry.context thread =
        some { input := context.input, output := ∅, env := context.env } ∧
      (∀ writes rest between,
        Work.Reaches (dispatch thread depth) thread crossing.entry.context
          (handler (unit.invocation request.item)) crossing.entry.resolved writes rest between →
        between.stores.context? crossing.entry.host thread = some context) ∧
      ∃ writes ended ran after final,
        Work.Reaches (dispatch thread depth) thread crossing.entry.context
          (handler (unit.invocation request.item)) crossing.entry.resolved writes (.ofEnded ended)
          ran ∧
        dispatch thread (depth + 1) request system = some (answerOf unit.info ended, after) ∧
        after.stores.context? crossing.entry.host thread = some final ∧
        final.input = context.input ∧ final.env = context.env ∧
        (∀ key, final.output.find? key =
          (Fields.find? key writes.reverse).or (context.output.find? key)) ∧
        ∀ id, id ≠ crossing.entry.host →
          after.stores.context? id thread = system.stores.context? id thread) ∧
    ∀ runs after, CrossesAll thread crossing.entry.host system runs after →
      after.stores.context? crossing.entry.host thread =
        some { context with
          output := (runs.map StringMap.ofList).foldl StringMap.override context.output } := by
  refine ⟨fun idle => ?_, fun unit handler calls calm alone => ⟨?_, ?_, ?_⟩, ?_⟩
  · obtain ⟨answer, hdispatch, hcontexts⟩ := crossing.dispatch_of_idle idle depth
    exact ⟨answer, _, hdispatch, hcontexts⟩
  · exact crossing.context?_inside
  · intro writes rest between reaches
    rw [reaches.stores_eq calm alone, Stores.context?_puts_of_ne crossing.host_ne_context]
    exact crossing.context?_host
  -- work that dispatches nothing comes to an end, and its actions tell what it has set
  · obtain ⟨ended, ran, run⟩ : ∃ ended ran, (handler (unit.invocation request.item)).run
        (dispatch thread depth) thread crossing.entry.context crossing.entry.resolved =
          some (ended, ran) := alone.exists_run _
    obtain ⟨writes, reaches⟩ := Work.exists_reaches run
    obtain ⟨hdispatch, hcontexts⟩ := crossing.dispatch_of_reaches calls calm alone reaches
    have hhost := hcontexts crossing.entry.host
    rw [if_pos rfl] at hhost
    refine ⟨writes, ended, ran, _, _, reaches, hdispatch, hhost, rfl, rfl, ?_, ?_⟩
    · intro key
      rw [StringMap.override_ofList, StringMap.find?_insertAll]
    · intro id hid
      rw [hcontexts, if_neg hid]
  · intro runs after crosses
    exact crosses.context?_host crossing.active

end Crossing

/-! ### Work that sets an output twice -/

/-- Work that sets an output, sets it again, and crashes. -/
def restless : Work := .put "k" "1" fun _ => .put "k" "2" fun _ => .crash .silent

/-- A registry with this work. -/
def restlessRegistry : Registry := Registry.empty.registerWork "A" fun _ => restless

/-- A system in which the unit does that, and in which the host has outputs already. -/
def restlessStage : System :=
  { staged restlessRegistry with
    stores := (staged restlessRegistry).stores.puts 0 processStore [("j", "0"), ("k", "0")] }

/-- The context of the host in this system. -/
def restlessContext : Context :=
  { input := ∅, output := .ofList [("j", "0"), ("k", "0")], env := ∅ }

/-- The unit is asked for in a boundary with a store of its own. -/
def restlessCrossing : Crossing 0 askA restlessStage restlessContext where
  boundary := 1
  built := restlessStage
  supplied := by with_unfolding_all rfl
  active := by decide +kernel
  different := by decide +kernel
  inactive := by decide +kernel

/-- The unit that the host makes. -/
def restlessUnit : LoadedUnit :=
  { serial := 0, name := "A", loader := ⟨1⟩, archive := "lib", path := "A.unit", bytes := [1]
    entries := restlessRegistry.link "A" }

theorem restlessCrossing_calls :
    restlessCrossing.entry.calls = some (restlessUnit, fun _ => restless) := by
  rw [Entry.calls, calls, System.resolve]
  with_unfolding_all rfl

/-- The host ends with the second value, in spite of the crash, and keeps its other output. -/
theorem dispatch_overrides_restless :
    ∃ answer after, dispatch 0 1 askA restlessStage = some (answer, after) ∧
      after.stores.context? processStore 0 =
        some { input := ∅, output := .ofList [("j", "0"), ("k", "2")], env := ∅ } := by
  have calm : restless.Calm := .put fun _ => .put fun _ => .crash _
  have alone : restless.Alone := .put fun _ => .put fun _ => .crash _
  obtain ⟨-, single, several⟩ := restlessCrossing.dispatch_overrides 0
  obtain ⟨-, -, -, ended, ran, after, -, -, done, -⟩ :=
    single restlessUnit (fun _ => restless) restlessCrossing_calls calm alone
  have hafter := several [[("k", "1"), ("k", "2")]] after
    (.cons (.work restlessCrossing rfl restlessCrossing_calls calm alone
      (.step rfl (.step rfl (.refl (.ofEnded (.crashed .silent)) _))) done) (.nil after))
  have hhost : restlessCrossing.entry.host = processStore := by decide +kernel
  have houtputs : StringMap.override restlessContext.output (.ofList [("k", "1"), ("k", "2")]) =
      .ofList [("j", "0"), ("k", "2")] := by decide +kernel
  refine ⟨_, after, done, ?_⟩
  rw [← hhost, hafter, ← houtputs]
  rfl

end System

end Isolation
