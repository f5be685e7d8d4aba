import Isolation.Proofs.Context.Carry

/-!
# What a thread does to its contexts

A thread works on the stores by single accesses, each of which concerns one context: its own in one
store. So an access can be told as a move of an automaton that has no context or one, and carrying a
context across is a program of two accesses.

## Main definitions

* `Stores.Access`, `Stores.perform` — an access to a store and what it does
* `Stores.Access.on` — the automaton of one context
* `Stores.Program` — a thread that chooses its accesses by the replies
* `Stores.Operation` — accesses, and carrying a context in or out

## Main results

* `Stores.perform_fst`, `Stores.context?_perform` — an access is a move of the automaton, and leaves
  all other contexts alone
* `Stores.perform_of_refuses` — an access that is refused changes nothing
* `Stores.Program.runOn_inOrder` — operations one after the other are programs of accesses
-/

namespace Isolation.Stores

/-- A single access to a store. -/
inductive Access
  | start (snapshot : Snapshot)
  | stop
  | put (key value : String)
  | merge (outputs : StringMap String)
  | isActive
  | input (key : String)
  | env (key : String)
  | output (key : String)
  | snapshot
  | current

namespace Access

/-- What an access is answered with. -/
abbrev Reply : Access → Type
  | start _ => Except ContextError Unit
  | stop => Except ContextError (StringMap String)
  | put _ _ => Except ContextError Unit
  | merge _ => Except ContextError Unit
  | isActive => Bool
  | input _ => Option String
  | env _ => Option String
  | output _ => Option String
  | snapshot => Option Snapshot
  | current => Option Context

/-- A reply that tells of a step which the life of the context does not allow. -/
def Refuses : (access : Access) → access.Reply → Prop
  | start _, reply => ∃ error, reply = .error error
  | stop, reply => ∃ error, reply = .error error
  | put _ _, reply => ∃ error, reply = .error error
  | merge _, reply => ∃ error, reply = .error error
  | _, _ => False

/-- The automaton of one context: from no context, or the one that is there, to the reply and what
is there then. -/
def on : (access : Access) → Option Context → access.Reply × Option Context
  | start given, none => (.ok (), some (.ofSnapshot given))
  | start _, some context => (.error .alreadyActive, some context)
  | stop, none => (.error .notActive, none)
  | stop, some context => (.ok context.output, none)
  | put _ _, none => (.error .notActive, none)
  | put key value, some context =>
    (.ok (), some { context with output := context.output.insert key value })
  | merge _, none => (.error .notActive, none)
  | merge outputs, some context =>
    (.ok (), some { context with output := context.output.override outputs })
  | isActive, context => (context.isSome, context)
  | input key, context => (context.bind (·.input.find? key), context)
  | env key, context => (context.bind (·.env.find? key), context)
  | output key, context => (context.bind (·.output.find? key), context)
  | snapshot, context => (context.map Context.snapshot, context)
  | current, context => (context, context)

/-- The outputs that an access sets. -/
def writes : Access → List (String × String)
  | put key value => [(key, value)]
  | merge outputs => outputs.toList
  | _ => []

end Access

/-- What an access of a thread does. -/
def perform (stores : Stores) (thread : ThreadId) (id : StoreId) :
    (access : Access) → access.Reply × Stores
  | .start snapshot => stores.change id (·.start thread snapshot)
  | .stop => stores.stop id thread
  | .put key value => stores.change id (·.put thread key value)
  | .merge outputs => stores.change id (·.merge thread outputs)
  | .isActive => ((stores.get id).isActive thread, stores)
  | .input key => ((stores.get id).input? thread key, stores)
  | .env key => ((stores.get id).env? thread key, stores)
  | .output key => ((stores.get id).output? thread key, stores)
  | .snapshot => ((stores.get id).snapshot? thread, stores)
  | .current => ((stores.get id).current? thread, stores)

/-! ### An access as a move of the automaton -/

section Moves

variable {stores : Stores} {thread other : ThreadId} {id place : StoreId} {access : Access}

/-- An access is answered as the automaton says. It changes nothing, or it is granted and replaces
the one store, where it moves the context of the one thread. -/
theorem perform_cases (stores : Stores) (thread : ThreadId) (id : StoreId) (access : Access) :
    (stores.perform thread id access).1 = (access.on (stores.context? id thread)).1 ∧
      ((stores.perform thread id access).2 = stores ∧
          (access.on (stores.context? id thread)).2 = stores.context? id thread ∨
        ¬ access.Refuses (access.on (stores.context? id thread)).1 ∧
          ∃ store : Store, (stores.perform thread id access).2 = stores.set id store ∧
            ∀ other, store.current? other =
              if other = thread then (access.on (stores.context? id thread)).2
              else stores.context? id other) := by
  have hset (context : Context) (other : ThreadId) :
      ((stores.get id).setContext thread context).current? other =
        if other = thread then some context else stores.context? id other :=
    Store.current?_setContext context
  cases hcontext : stores.context? id thread with
  | none =>
    have hnone : (stores.get id).current? thread = none := hcontext
    cases access
    case start given =>
      refine ⟨?_, .inr ⟨?_, _, ?_, hset (.ofSnapshot given)⟩⟩
        <;> simp [perform, change, Store.start, hnone, Access.on, Access.Refuses]
    all_goals simp [perform, change, Store.stop, stop, Store.put, Store.merge, Store.changeOutput,
      Store.isActive, Store.input?, Store.env?, Store.output?, Store.snapshot?, hnone, Access.on]
  | some context =>
    have hsome : (stores.get id).current? thread = some context := hcontext
    cases access
    case stop =>
      rw [perform, stop_of_context? hcontext]
      refine ⟨rfl, .inr ⟨?_, _, rfl, fun other => ThreadMap.get?_erase _ _ _⟩⟩
      simp [Access.on, Access.Refuses]
    case put key value =>
      refine ⟨?_, .inr ⟨?_, _, ?_, hset { context with output := context.output.insert key value }⟩⟩
        <;> simp [perform, change, Store.put, Store.changeOutput, hsome, Access.on, Access.Refuses]
    case merge outputs =>
      refine ⟨?_, .inr ⟨?_, _, ?_, hset { context with output := context.output.override outputs }⟩⟩
        <;> simp [perform, change, Store.merge, Store.changeOutput, hsome, Access.on, Access.Refuses]
    all_goals simp [perform, change, Store.start, Store.isActive, Store.input?, Store.env?,
      Store.output?, Store.snapshot?, hsome, Access.on]

theorem perform_fst :
    (stores.perform thread id access).1 = (access.on (stores.context? id thread)).1 :=
  (perform_cases stores thread id access).1

/-- An access moves the context of its thread in its store, and leaves all others alone. -/
theorem context?_perform :
    (stores.perform thread id access).2.context? place other =
      if place = id ∧ other = thread then (access.on (stores.context? id thread)).2
      else stores.context? place other := by
  obtain ⟨-, ⟨hstores, hsame⟩ | ⟨-, store, hstores, hstore⟩⟩ :=
    perform_cases stores thread id access
  · rw [hstores, hsame]
    split
    · next h => rw [h.1, h.2]
    · rfl
  · rw [hstores]
    by_cases hplace : place = id
    · simp [hplace, context?_set_self, hstore]
    · simp [hplace, context?_set_of_ne]

/-- An access that is refused changes nothing. -/
theorem perform_of_refuses (h : access.Refuses (stores.perform thread id access).1) :
    (stores.perform thread id access).2 = stores := by
  obtain ⟨hreply, ⟨hstores, -⟩ | ⟨hgranted, -⟩⟩ := perform_cases stores thread id access
  · exact hstores
  · rw [hreply] at h
    exact absurd h hgranted

end Moves

namespace Access

variable {access : Access} {context : Context}

/-- Where there is no context, only a start makes one. -/
theorem eq_start_of_on_none (h : (access.on none).2 = some context) :
    ∃ given, access = start given ∧ context = .ofSnapshot given := by
  cases access
  case start given => exact ⟨given, rfl, (Option.some.inj h).symm⟩
  all_goals exact absurd h nofun

/-- A context that does not end gets the outputs that are written. -/
theorem on_some (access : Access) (going : access ≠ stop) (context : Context) :
    (access.on (some context)).2 = some (context.setting access.writes) := by
  cases access
  case stop => exact absurd rfl going
  case merge outputs =>
    have hwrites : context.output.override outputs = context.output.insertAll outputs.toList := by
      rw [← StringMap.override_ofList, StringMap.ofList_toList]
    simp only [on, writes, Context.setting, hwrites]
  all_goals rfl

end Access

/-! ### Programs of accesses -/

/-- A thread that goes on as the replies to its accesses make it. -/
inductive Program (α : Type)
  | finish (answer : α)
  | access (id : StoreId) (access : Access) (next : access.Reply → Program α)

namespace Program

variable {α β : Type}

/-- A program that goes on with another one. -/
def bind : Program α → (α → Program β) → Program β
  | finish answer, rest => rest answer
  | access id what next, rest => access id what fun reply => (next reply).bind rest

/-- Runs a program of a thread while no other thread does anything. -/
def runOn (thread : ThreadId) : Program α → Stores → α × Stores
  | finish answer, stores => (answer, stores)
  | access id what next, stores =>
    (next (stores.perform thread id what).1).runOn thread (stores.perform thread id what).2

theorem runOn_bind (thread : ThreadId) (program : Program α) (rest : α → Program β)
    (stores : Stores) :
    (program.bind rest).runOn thread stores =
      (rest (program.runOn thread stores).1).runOn thread (program.runOn thread stores).2 := by
  induction program generalizing stores with
  | finish answer => rfl
  | access id what next ih => exact ih _ _

/-- Carrying a context in, access by access. -/
def carryIn (host boundary : StoreId) : Program (Except PropagateError Bool) :=
  if host = boundary then finish (.ok false)
  else access host .snapshot fun
    | none => finish (.ok false)
    | some snapshot =>
      match Snapshot.decode snapshot.encode with
      | .error error => finish (.error (.marshal error))
      | .ok snapshot => access boundary (.start snapshot) fun
        | .ok () => finish (.ok true)
        | .error error => finish (.error (.context error))

/-- Carrying outputs out, access by access. -/
def carryOut (host boundary : StoreId) : Program (Except PropagateError (StringMap String)) :=
  if host = boundary then finish (.ok ∅)
  else access boundary .stop fun
    | .error error => finish (.error (.context error))
    | .ok outputs =>
      match decodeOutputs (encodeOutputs outputs) with
      | .error error => finish (.error (.marshal error))
      | .ok outputs => access host (.merge outputs) fun
        | .ok () => finish (.ok outputs)
        | .error error => finish (.error (.context error))

/-- Where no other thread comes between, the accesses make up the whole. -/
theorem runOn_carryIn (thread : ThreadId) (host boundary : StoreId) (stores : Stores) :
    (carryIn host boundary).runOn thread stores = stores.propagateIn thread host boundary := by
  rw [carryIn, propagateIn]
  split
  · rfl
  · cases hsnapshot : (stores.get host).snapshot? thread with
    | none => simp [runOn, perform, hsnapshot]
    | some snapshot =>
      simp only [runOn, perform, hsnapshot, Snapshot.decode_encode]
      generalize stores.change boundary (·.start thread snapshot) = result
      obtain ⟨answer | answer, after⟩ := result <;> rfl

theorem runOn_carryOut (thread : ThreadId) (host boundary : StoreId) (stores : Stores) :
    (carryOut host boundary).runOn thread stores = stores.propagateOut thread host boundary := by
  rw [carryOut, propagateOut]
  split
  · rfl
  · simp only [runOn, perform]
    generalize stores.stop boundary thread = stopped
    obtain ⟨error | outputs, between⟩ := stopped
    · rfl
    · simp only [runOn, perform, decodeOutputs_encodeOutputs]
      generalize between.change host (·.merge thread outputs) = merged
      obtain ⟨answer | answer, after⟩ := merged <;> rfl

end Program

/-- What a thread does between two of its own decisions. -/
inductive Operation
  | access (id : StoreId) (access : Access)
  | carryIn (host boundary : StoreId)
  | carryOut (host boundary : StoreId)

namespace Operation

/-- What an operation is answered with. -/
abbrev Reply : Operation → Type
  | access _ what => what.Reply
  | carryIn _ _ => Except PropagateError Bool
  | carryOut _ _ => Except PropagateError (StringMap String)

/-- What an operation does where no other thread comes between. -/
def perform (thread : ThreadId) (stores : Stores) :
    (operation : Operation) → operation.Reply × Stores
  | access id what => stores.perform thread id what
  | carryIn host boundary => stores.propagateIn thread host boundary
  | carryOut host boundary => stores.propagateOut thread host boundary

/-- The accesses of an operation. -/
def program : (operation : Operation) → Program operation.Reply
  | access id what => .access id what .finish
  | carryIn host boundary => .carryIn host boundary
  | carryOut host boundary => .carryOut host boundary

theorem runOn_program (thread : ThreadId) (operation : Operation) (stores : Stores) :
    operation.program.runOn thread stores = operation.perform thread stores := by
  cases operation with
  | access id what => rfl
  | carryIn host boundary => exact Program.runOn_carryIn thread host boundary stores
  | carryOut host boundary => exact Program.runOn_carryOut thread host boundary stores

end Operation

/-- An operation with its answer. -/
structure Answered where
  operation : Operation
  reply : operation.Reply

/-- What several operations do, one after the other, where no other thread comes between. -/
def performAll (thread : ThreadId) : List Operation → Stores → List Answered × Stores
  | [], stores => ([], stores)
  | operation :: operations, stores =>
    let done := operation.perform thread stores
    let rest := performAll thread operations done.2
    (⟨operation, done.1⟩ :: rest.1, rest.2)

/-- The program of several operations, one after the other. -/
def Program.inOrder : List Operation → Program (List Answered)
  | [] => finish []
  | operation :: operations =>
    operation.program.bind fun reply =>
      (inOrder operations).bind fun answers => finish (⟨operation, reply⟩ :: answers)

theorem Program.runOn_inOrder (thread : ThreadId) (operations : List Operation) (stores : Stores) :
    (inOrder operations).runOn thread stores = performAll thread operations stores := by
  induction operations generalizing stores with
  | nil => rfl
  | cons operation operations ih =>
    simp only [inOrder, runOn_bind, Operation.runOn_program, ih]
    rfl

end Isolation.Stores
