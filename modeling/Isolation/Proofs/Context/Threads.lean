import Isolation.Proofs.Context.Access
import Mathlib.Data.Set.Card
import Mathlib.Logic.Function.Iterate

/-!
# Threads that share their stores

Any number of threads work on the same stores, one access at a time and in any order. Each of them
finds and leaves what it would find and leave if it were alone, since an access moves one context of
its own thread only. What was answered until some moment tells which contexts there are.

## Main definitions

* `Stores.Machine` — threads at work on stores they share, with a log of what was answered
* `Stores.Lone` — one thread and its contexts, moved by the automaton
* `Stores.Log.Since` — the last start of a context, if no end came after it

## Main results

* `Stores.Machine.lone_run` — a thread among others is as if alone
* `Stores.Log.contextAfter_eq_some_iff` — the contexts that a log tells of
* `Stores.Machine.run_separate` — threads never see each other's contexts
-/

namespace Isolation.Stores

/-- An access with its reply. -/
structure Event where
  id : StoreId
  access : Access
  reply : access.Reply

/-- Threads at work on stores that they share. -/
structure Machine (α : Type) where
  stores : Stores := {}
  programs : ThreadId → Program α
  log : List (ThreadId × Event) := []

/-- A thread without others, with its contexts in all stores. -/
@[ext] structure Lone (α : Type) where
  contexts : StoreId → Option Context := fun _ => none
  program : Program α
  events : List Event := []

variable {α : Type}

/-- The next access of a thread that is alone. -/
def Lone.step (lone : Lone α) : Lone α :=
  match lone.program with
  | .finish _ => lone
  | .access id access next =>
    let moved := access.on (lone.contexts id)
    { contexts := Function.update lone.contexts id moved.2
      program := next moved.1
      events := lone.events ++ [⟨id, access, moved.1⟩] }

namespace Machine

/-- The next access of a thread. -/
def step (machine : Machine α) (thread : ThreadId) : Machine α :=
  match machine.programs thread with
  | .finish _ => machine
  | .access id access next =>
    let done := machine.stores.perform thread id access
    { stores := done.2
      programs := Function.update machine.programs thread (next done.1)
      log := machine.log ++ [(thread, ⟨id, access, done.1⟩)] }

/-- The accesses of several threads, in the order of a schedule. -/
def run (machine : Machine α) (schedule : List ThreadId) : Machine α := schedule.foldl step machine

/-- What concerns one of the threads. -/
def lone (machine : Machine α) (thread : ThreadId) : Lone α where
  contexts id := machine.stores.context? id thread
  program := machine.programs thread
  events := machine.log.filterMap fun entry => if entry.1 = thread then some entry.2 else none

variable {machine : Machine α} {thread other : ThreadId}

/-- A thread moves as if it were alone. -/
theorem lone_step_self : (machine.step thread).lone thread = (machine.lone thread).step := by
  cases hprogram : machine.programs thread with
  | finish answer => simp [step, lone, Lone.step, hprogram]
  | access id access next =>
    have hlone : (machine.lone thread).program = .access id access next := hprogram
    rw [Lone.step, hlone, step, hprogram]
    apply Lone.ext
    · funext place
      simp [lone, context?_perform, Function.update_apply]
    · simp [lone, perform_fst]
    · simp [lone, perform_fst]

/-- No other thread notices. -/
theorem lone_step_of_ne (different : other ≠ thread) :
    (machine.step thread).lone other = machine.lone other := by
  cases hprogram : machine.programs thread with
  | finish answer => simp [step, hprogram]
  | access id access next =>
    rw [step, hprogram]
    apply Lone.ext
    · funext place
      simp [lone, context?_perform, different]
    · simp [lone, different]
    · simp [lone, different.symm]

/-- After any schedule a thread is where it would be alone after as many accesses. -/
theorem lone_run (schedule : List ThreadId) :
    (machine.run schedule).lone thread =
      Lone.step^[schedule.count thread] (machine.lone thread) := by
  induction schedule generalizing machine with
  | nil => rfl
  | cons first schedule ih =>
    have hrest : (machine.run (first :: schedule)).lone thread =
        Lone.step^[schedule.count thread] ((machine.step first).lone thread) := ih
    rw [hrest]
    by_cases h : thread = first
    · subst h
      rw [lone_step_self, List.count_cons_self, Function.iterate_succ_apply]
    · rw [lone_step_of_ne h, List.count_cons_of_ne (Ne.symm h)]

end Machine

/-! ### What a log tells -/

/-- What was answered until now, by thread. -/
abbrev Log := List (ThreadId × Event)

/-- The events that start or end a context in a store. -/
inductive Event.Turns (id : StoreId) : Event → Prop
  | start (snapshot : Snapshot) : Turns id ⟨id, .start snapshot, .ok ()⟩
  | stop (outputs : StringMap String) : Turns id ⟨id, .stop, .ok outputs⟩

namespace Log

/-- The context of a thread in a store as the accesses of a log make it. -/
def contextAfter (log : Log) (thread : ThreadId) (id : StoreId) : Option Context :=
  log.foldl (fun context entry =>
    if entry.1 = thread ∧ entry.2.id = id then (entry.2.access.on context).2 else context) none

/-- The outputs that a thread set in a store, in their order. -/
def writes (log : Log) (thread : ThreadId) (id : StoreId) : List (String × String) :=
  log.flatMap fun entry =>
    if entry.1 = thread ∧ entry.2.id = id then entry.2.access.writes else []

/-- No context of a thread starts or ends in a store. -/
def Quiet (log : Log) (thread : ThreadId) (id : StoreId) : Prop :=
  ∀ event, (thread, event) ∈ log → ¬ event.Turns id

/-- The last start of a context of a thread in a store that was granted, and what came after it:
the context has not ended since. -/
def Since (log : Log) (thread : ThreadId) (id : StoreId) (snapshot : Snapshot) (after : Log) :
    Prop :=
  (∃ before, log = before ++ (thread, ⟨id, .start snapshot, .ok ()⟩) :: after) ∧
    after.Quiet thread id

/-- The last start of a context was not followed by its end. -/
def Running (log : Log) (thread : ThreadId) (id : StoreId) : Prop :=
  ∃ snapshot after, log.Since thread id snapshot after

/-- Every reply is that of the automaton. -/
def Faithful (log : Log) : Prop :=
  ∀ (before : Log) thread event after, log = before ++ (thread, event) :: after →
    event.reply = (event.access.on (before.contextAfter thread event.id)).1

variable {log more : Log} {thread other : ThreadId} {id : StoreId} {event : Event}
  {context : Context}

theorem contextAfter_concat (log : Log) (entry : ThreadId × Event) :
    contextAfter (log ++ [entry]) thread id =
      if entry.1 = thread ∧ entry.2.id = id then (entry.2.access.on (log.contextAfter thread id)).2
      else log.contextAfter thread id := by
  simp [contextAfter]

theorem Faithful.of_append (h : Faithful (log ++ more)) : log.Faithful := by
  rintro before thread event after rfl
  exact h before thread event (after ++ more) (by simp)

theorem Faithful.last (h : Faithful (log ++ [(thread, event)])) :
    event.reply = (event.access.on (log.contextAfter thread event.id)).1 :=
  h log thread event [] rfl

theorem faithful_concat (h : log.Faithful)
    (last : event.reply = (event.access.on (log.contextAfter thread event.id)).1) :
    Faithful (log ++ [(thread, event)]) := by
  intro before other found after heq
  obtain rfl | ⟨after, last', rfl⟩ := after.eq_nil_or_concat'
  · obtain ⟨rfl, hentry⟩ := List.append_inj' heq rfl
    simp only [List.cons.injEq, Prod.mk.injEq, and_true] at hentry
    obtain ⟨rfl, rfl⟩ := hentry
    exact last
  · rw [← List.cons_append, ← List.append_assoc] at heq
    obtain ⟨rfl, -⟩ := List.append_inj' heq rfl
    exact h before other found after rfl

theorem Quiet.of_append (h : Quiet (log ++ more) thread id) : log.Quiet thread id :=
  fun event member => h event (List.mem_append_left more member)

/-- As long as nothing starts or ends, a context gets the outputs that are written. -/
theorem contextAfter_of_quiet (faithful : Faithful (log ++ more)) (quiet : more.Quiet thread id)
    (h : log.contextAfter thread id = some context) :
    contextAfter (log ++ more) thread id = some (context.setting (more.writes thread id)) := by
  induction more using List.reverseRecOn with
  | nil => simpa [writes] using h
  | append_singleton more entry ih =>
    rw [← List.append_assoc] at faithful
    have hbefore := ih faithful.of_append quiet.of_append
    obtain ⟨by', event⟩ := entry
    rw [← List.append_assoc, contextAfter_concat, hbefore]
    by_cases here : by' = thread ∧ event.id = id
    · obtain ⟨rfl, rfl⟩ := here
      have going : event.access ≠ .stop := by
        intro hstop
        obtain ⟨place, access, reply⟩ := event
        obtain rfl : access = .stop := hstop
        have hreply := faithful.last
        rw [hbefore] at hreply
        exact quiet _ (List.mem_append_right _ List.mem_cons_self) (by
          rw [show reply = .ok _ from hreply]
          exact .stop _)
      simp [Access.on_some _ going, writes, Context.setting_append]
    · simp [here, writes]

/-- A context that is there was started, and has not ended since. -/
theorem running_of_contextAfter (faithful : log.Faithful)
    (h : log.contextAfter thread id = some context) : log.Running thread id := by
  induction log using List.reverseRecOn generalizing context with
  | nil => exact absurd h nofun
  | append_singleton log entry ih =>
    obtain ⟨by', place, access, reply⟩ := entry
    -- an event that turns nothing leaves the last start where it was
    have extend {before : Context} (hbefore : contextAfter log thread id = some before)
        (still : by' = thread → ¬ Event.Turns id ⟨place, access, reply⟩) :
        Running (log ++ [(by', ⟨place, access, reply⟩)]) thread id := by
      obtain ⟨snapshot, after, ⟨earlier, rfl⟩, quiet⟩ := ih faithful.of_append hbefore
      refine ⟨snapshot, after ++ [(by', ⟨place, access, reply⟩)], ⟨earlier, by simp⟩, ?_⟩
      intro found member
      obtain member | member := List.mem_append.1 member
      · exact quiet found member
      · obtain ⟨rfl, rfl⟩ := Prod.mk.inj (List.mem_singleton.1 member)
        exact still rfl
    rw [contextAfter_concat] at h
    by_cases here : by' = thread ∧ place = id
    · obtain ⟨rfl, rfl⟩ := here
      rw [if_pos ⟨rfl, rfl⟩] at h
      have hreply : reply = (access.on (contextAfter log by' place)).1 := faithful.last
      cases hbefore : contextAfter log by' place with
      | none =>
        rw [hbefore] at h hreply
        obtain ⟨given, rfl, -⟩ := Access.eq_start_of_on_none h
        obtain rfl : reply = .ok () := hreply
        exact ⟨given, [], ⟨log, rfl⟩, nofun⟩
      | some before =>
        rw [hbefore] at h hreply
        refine extend hbefore fun _ turns => ?_
        -- a start is refused, and after an end there would be no context
        cases turns with
        | start snapshot => exact absurd hreply nofun
        | stop outputs => exact absurd h nofun
    · rw [if_neg here] at h
      refine extend h fun hby turns => here ⟨hby, ?_⟩
      cases turns <;> rfl

/-- A log tells which contexts are there, and what is in them. -/
theorem contextAfter_of_since {snapshot : Snapshot} {after : Log} (faithful : log.Faithful)
    (since : log.Since thread id snapshot after) :
    log.contextAfter thread id =
      some ((Context.ofSnapshot snapshot).setting (after.writes thread id)) := by
  obtain ⟨⟨before, rfl⟩, quiet⟩ := since
  rw [← List.singleton_append, ← List.append_assoc] at faithful ⊢
  refine contextAfter_of_quiet faithful quiet ?_
  have hreply := faithful.of_append.last
  rw [contextAfter_concat, if_pos ⟨rfl, rfl⟩]
  -- the start was granted, so there was no context
  cases hbefore : contextAfter before thread id with
  | none => rfl
  | some context =>
    rw [hbefore] at hreply
    exact absurd hreply nofun

theorem running_iff (faithful : log.Faithful) :
    log.Running thread id ↔ (log.contextAfter thread id).isSome = true := by
  constructor
  · rintro ⟨snapshot, after, since⟩
    simp [contextAfter_of_since faithful since]
  · intro h
    obtain ⟨context, hcontext⟩ := Option.isSome_iff_exists.1 h
    exact running_of_contextAfter faithful hcontext

/-- The outputs that an end hands out are those written last since the start. -/
theorem exists_since_of_stop {before after : Log} {outputs : StringMap String}
    (faithful : log.Faithful)
    (h : log = before ++ (thread, ⟨id, .stop, .ok outputs⟩) :: after) :
    ∃ snapshot between, before.Since thread id snapshot between ∧
      ∀ key, outputs.find? key = Fields.find? key (between.writes thread id).reverse := by
  have hreply := faithful _ _ _ _ h
  obtain ⟨context, hcontext, houtputs⟩ : ∃ context,
      before.contextAfter thread id = some context ∧ outputs = context.output := by
    cases hbefore : contextAfter before thread id with
    | none =>
      rw [hbefore] at hreply
      exact absurd hreply nofun
    | some context =>
      rw [hbefore] at hreply
      exact ⟨context, rfl, Except.ok.inj hreply⟩
  have hbefore : before.Faithful := by
    rw [h] at faithful
    exact faithful.of_append
  obtain ⟨snapshot, between, since⟩ := running_of_contextAfter hbefore hcontext
  refine ⟨snapshot, between, since, fun key => ?_⟩
  obtain rfl := Option.some.inj (hcontext.symm.trans (contextAfter_of_since hbefore since))
  rw [houtputs, Context.setting, StringMap.find?_insertAll]
  simp [Context.ofSnapshot]

end Log

namespace Machine

/-- The log tells the contexts that there are, and how they came about. -/
structure Logged (machine : Machine α) : Prop where
  context? : ∀ thread id, machine.stores.context? id thread = Log.contextAfter machine.log thread id
  faithful : Log.Faithful machine.log

variable {machine : Machine α}

theorem Logged.step (logged : machine.Logged) (thread : ThreadId) : (machine.step thread).Logged := by
  cases hprogram : machine.programs thread with
  | finish answer =>
    rw [Machine.step, hprogram]
    exact logged
  | access id access next =>
    rw [Machine.step, hprogram]
    refine ⟨fun other place => ?_, Log.faithful_concat logged.faithful ?_⟩
    · rw [context?_perform, Log.contextAfter_concat, ← logged.context?]
      by_cases here : place = id ∧ other = thread
      · obtain ⟨rfl, rfl⟩ := here
        simp
      · rw [if_neg here, if_neg fun h => here ⟨h.2.symm, h.1.symm⟩]
    · rw [perform_fst, logged.context?]

theorem Logged.run (logged : machine.Logged) (schedule : List ThreadId) :
    (machine.run schedule).Logged := by
  induction schedule generalizing machine with
  | nil => exact logged
  | cons thread schedule ih => exact ih (logged.step thread)

/-- Threads that are about to start, on empty stores. -/
def start (programs : ThreadId → Program α) : Machine α := { programs }

theorem context?_empty (id : StoreId) (thread : ThreadId) :
    ({} : Stores).context? id thread = none := by
  cases id <;> rfl

theorem lone_start (programs : ThreadId → Program α) (thread : ThreadId) :
    (start programs).lone thread = { program := programs thread } := by
  apply Lone.ext
  · funext id
    exact context?_empty id thread
  · rfl
  · rfl

theorem logged_start (programs : ThreadId → Program α) : (start programs).Logged where
  context? thread id := context?_empty id thread
  faithful before thread event after h := absurd h (by simp [start])

end Machine

end Stores

/-! ### Threads with a context -/

/-- The size of a map is the number of threads that have an entry. -/
theorem ThreadMap.encard_get? {α : Type} (map : ThreadMap α) :
    {thread | (map.get? thread).isSome = true}.encard = map.size := by
  have hkeys : {thread | (map.get? thread).isSome = true} =
      ((map.entries.map Prod.fst).toFinset : Set ThreadId) := by
    ext thread
    simp [ThreadMap.get?]
  rw [hkeys, Set.encard_coe_eq_coe_finsetCard, List.toFinset_card_of_nodup map.distinct,
    List.length_map, ThreadMap.size]

namespace Stores.Machine

variable {α : Type}

/-- The threads that are counted in a store are those whose context there has not ended. -/
theorem Logged.encard_running {machine : Machine α} (logged : machine.Logged) (id : StoreId) :
    {thread | Log.Running machine.log thread id}.encard =
      (machine.stores.get id).activeThreads := by
  rw [Store.activeThreads, ← ThreadMap.encard_get?]
  congr 1
  ext thread
  exact (Log.running_iff logged.faithful).trans (by rw [← logged.context?]; rfl)

/-- Threads never see each other's contexts. Let any threads run any programs of accesses on stores
that are empty at first, in any order. At every moment each thread has got the replies and has the
contexts that it would have alone, as an automaton of its own accesses. There, a context starts
just where there is none, and without outputs; it ends with what was written last under each key
since its start; and whatever is refused changes nothing. A store counts the threads whose last
start there was not followed by an end. Operations that carry contexts across are programs of
accesses, too. -/
theorem run_separate (programs : ThreadId → Program α) (schedule : List ThreadId) :
    let after := (start programs).run schedule
    (∀ thread, after.lone thread =
      Lone.step^[schedule.count thread] { program := programs thread }) ∧
    (∀ thread id snapshot,
      let done := after.stores.perform thread id (.start snapshot)
      (done.1 = .ok () ↔ after.stores.context? id thread = none) ∧
        (done.1 = .ok () → done.2.context? id thread = some ⟨snapshot.input, ∅, snapshot.env⟩)) ∧
    (∀ earlier later thread id outputs,
      after.log = earlier ++ (thread, ⟨id, .stop, .ok outputs⟩) :: later →
        ∃ snapshot between, Log.Since earlier thread id snapshot between ∧
          ∀ key, outputs.find? key = Fields.find? key (Log.writes between thread id).reverse) ∧
    (∀ thread id access, access.Refuses (after.stores.perform thread id access).1 →
      (after.stores.perform thread id access).2 = after.stores) ∧
    (∀ id, {thread | Log.Running after.log thread id}.encard =
      (after.stores.get id).activeThreads) ∧
    ∀ thread operations, (Program.inOrder operations).runOn thread after.stores =
      performAll thread operations after.stores := by
  intro after
  have logged : after.Logged := (logged_start programs).run schedule
  refine ⟨fun thread => ?_, fun thread id snapshot => ?_, ?_, ?_, logged.encard_running, ?_⟩
  · rw [lone_run, lone_start]
  · intro done
    have hreply : done.1 = _ := perform_fst
    have hcontext : done.2.context? id thread = _ := context?_perform
    rw [hreply, hcontext, if_pos ⟨rfl, rfl⟩]
    cases after.stores.context? id thread with
    | none => exact ⟨⟨fun _ => rfl, fun _ => rfl⟩, fun _ => rfl⟩
    | some context => exact ⟨⟨nofun, nofun⟩, nofun⟩
  · intro earlier later thread id outputs h
    exact Log.exists_since_of_stop logged.faithful h
  · intro thread id access h
    exact perform_of_refuses h
  · intro thread operations
    exact Program.runOn_inOrder thread operations after.stores

end Stores.Machine

end Isolation
