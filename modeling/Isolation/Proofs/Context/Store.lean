import Isolation.Proofs.Envelope.Outputs
import Isolation.System.Propagate

/-!
# Contexts in stores

What an operation on one store means for the contexts of a thread in all of them. A context that is
there stays there unless it is ended, and outputs can be carried out as long as the contexts on both
sides are there.

## Main definitions

* `Stores.Keeps` — no context of a thread is lost

## Main results

* `Stores.keeps_change`, `Stores.keeps_make` — operations that lose nothing
* `Stores.propagateIn_cases` — what carrying a context in does
* `Stores.propagateOut_of_isActive` — outputs are carried out
-/

namespace Isolation

namespace Store

variable {store after : Store} {thread other : ThreadId}

theorem isActive_setContext (context : Context) :
    (store.setContext thread context).isActive other =
      (decide (other = thread) || store.isActive other) := by
  rw [isActive, current?, setContext, ThreadMap.get?_set]
  by_cases h : other = thread
  · simp [h]
  · simp [h, isActive, current?]

theorem isActive_iff : store.isActive thread = true ↔
    ∃ context, store.current? thread = some context :=
  Option.isSome_iff_exists

/-- Outputs are changed only in a context that is there. -/
theorem changeOutput_of_isActive (h : store.isActive thread = true)
    (change : StringMap String → StringMap String) :
    ∃ context, store.changeOutput thread change = .ok (store.setContext thread context) := by
  obtain ⟨context, hcontext⟩ := isActive_iff.1 h
  exact ⟨_, by rw [changeOutput, hcontext]⟩

/-- Changing outputs ends no context. -/
theorem isActive_of_changeOutput {change : StringMap String → StringMap String}
    (h : store.changeOutput thread change = .ok after) (active : store.isActive other = true) :
    after.isActive other = true := by
  rw [changeOutput] at h
  split at h
  · cases h
  · cases h
    rw [isActive_setContext, active, Bool.or_true]

end Store

namespace Stores

variable {stores after : Stores} {id other host boundary : StoreId} {thread : ThreadId}

/-- Stores that are made are as empty as stores that were never made. -/
theorem getD_append_replicate (list : List Store) (n : Nat) :
    (list ++ List.replicate n ({} : Store)).getD id {} = list.getD id {} := by
  simp only [List.getD_eq_getElem?_getD, List.getElem?_append]
  by_cases h : id < list.length
  · rw [if_pos h]
  · rw [if_neg h, List.getElem?_eq_none (Nat.le_of_not_lt h), List.getElem?_replicate]
    split <;> rfl

theorem get_set_of_ne (h : other ≠ id) (store : Store) :
    (stores.set id store).get other = stores.get other := by
  rw [get, set, List.getD_eq_getElem?_getD, List.getElem?_set_ne (Ne.symm h),
    ← List.getD_eq_getElem?_getD]
  exact getD_append_replicate stores.list _

theorem get_set_self (store : Store) : (stores.set id store).get id = store := by
  have hlt : id < (stores.list.rightpad (id + 1) {}).length := by
    rw [List.length_rightpad]
    exact Nat.lt_of_lt_of_le (Nat.lt_succ_self id) (Nat.le_max_left _ _)
  rw [get, set, List.getD_eq_getElem?_getD, List.getElem?_set_self hlt, Option.getD_some]

theorem get_make : stores.make.2.get id = stores.get id := getD_append_replicate stores.list 1

/-- No context of a thread is lost from some stores to others. -/
def Keeps (thread : ThreadId) (stores after : Stores) : Prop :=
  ∀ id, (stores.get id).isActive thread = true → (after.get id).isActive thread = true

theorem Keeps.refl (thread : ThreadId) (stores : Stores) : Keeps thread stores stores :=
  fun _ => id

theorem Keeps.trans {between : Stores} (first : Keeps thread stores between)
    (second : Keeps thread between after) : Keeps thread stores after :=
  fun id h => second id (first id h)

/-- Replacing a store loses nothing if the new one has the context that the old one had. -/
theorem keeps_set {store : Store}
    (h : (stores.get id).isActive thread = true → store.isActive thread = true) :
    Keeps thread stores (stores.set id store) := by
  intro other active
  by_cases ho : other = id
  · subst ho
    rw [get_set_self]
    exact h active
  · rw [get_set_of_ne ho]
    exact active

/-- An operation loses nothing if it loses nothing whenever it succeeds. -/
theorem keeps_change {operation : Store → Except ContextError Store}
    (h : ∀ {store after}, operation store = .ok after → store.isActive thread = true →
      after.isActive thread = true) :
    Keeps thread stores (stores.change id operation).2 := by
  rw [change]
  split
  · next store hstore => exact keeps_set (h hstore)
  · exact .refl thread stores

theorem keeps_make : Keeps thread stores stores.make.2 := by
  intro id active
  rw [get_make]
  exact active

/-- Ending a context that is there hands out its outputs. -/
theorem stop_of_isActive (h : (stores.get id).isActive thread = true) :
    ∃ outputs store, stores.stop id thread = (.ok outputs, stores.set id store) := by
  obtain ⟨context, hcontext⟩ := Store.isActive_iff.1 h
  exact ⟨_, _, by rw [stop, Store.stop, hcontext]⟩

/-- Outputs are carried out if the contexts on both sides are there. -/
theorem propagateOut_of_isActive (inside : (stores.get boundary).isActive thread = true)
    (outside : (stores.get host).isActive thread = true) :
    ∃ outputs, (stores.propagateOut thread host boundary).1 = .ok outputs := by
  rw [propagateOut]
  by_cases hsame : host = boundary
  · exact ⟨_, by rw [if_pos hsame]⟩
  -- ending the context inside does not touch the store outside, so the outputs find their context
  · obtain ⟨outputs, store, hstop⟩ := stop_of_isActive inside
    have hhost : ((stores.set boundary store).get host).isActive thread = true := by
      rw [get_set_of_ne hsame]
      exact outside
    obtain ⟨context, hmerge⟩ := Store.changeOutput_of_isActive hhost fun output =>
      output.override outputs
    refine ⟨outputs, ?_⟩
    simp only [if_neg hsame, hstop, decodeOutputs_encodeOutputs, change, Store.merge, hmerge]

/-- Carrying a context in changes nothing, or it starts a context where there was none. -/
theorem propagateIn_cases (stores : Stores) (thread : ThreadId) (host boundary : StoreId) :
    (∃ answer, answer ≠ .ok true ∧ stores.propagateIn thread host boundary = (answer, stores)) ∨
      (stores.get host).isActive thread = true ∧ (stores.get boundary).isActive thread = false ∧
        ∃ context, stores.propagateIn thread host boundary =
          (.ok true, stores.set boundary ((stores.get boundary).setContext thread context)) := by
  rw [propagateIn]
  by_cases hsame : host = boundary
  · exact .inl ⟨.ok false, nofun, by rw [if_pos hsame]⟩
  · rw [if_neg hsame]
    cases hsnapshot : (stores.get host).snapshot? thread with
    | none => exact .inl ⟨.ok false, nofun, rfl⟩
    | some snapshot =>
      simp only
      cases Snapshot.decode snapshot.encode with
      | error error => exact .inl ⟨.error (.marshal error), nofun, rfl⟩
      | ok snapshot =>
        simp only [change, Store.start]
        cases hnone : (stores.get boundary).current? thread with
        | some context => exact .inl ⟨.error (.context .alreadyActive), nofun, rfl⟩
        | none =>
          refine .inr ⟨?_, ?_, .ofSnapshot snapshot, rfl⟩
          · obtain ⟨context, hcontext, -⟩ := Option.map_eq_some_iff.1 hsnapshot
            exact Store.isActive_iff.2 ⟨context, hcontext⟩
          · rw [Store.isActive, hnone, Option.isSome_none]

theorem keeps_propagateIn : Keeps thread stores (stores.propagateIn thread host boundary).2 := by
  obtain ⟨answer, -, h⟩ | ⟨-, -, context, h⟩ := propagateIn_cases stores thread host boundary
  · rw [h]
    exact .refl thread stores
  · rw [h]
    apply keeps_set
    intro active
    rw [Store.isActive_setContext, active, Bool.or_true]

theorem get_stop_of_ne (h : id ≠ boundary) :
    (stores.stop boundary thread).2.get id = stores.get id := by
  rw [stop]
  split
  · exact get_set_of_ne h _
  · rfl

/-- Carrying outputs out ends no context but the one in the store of the boundary. -/
theorem isActive_propagateOut_of_ne (h : id ≠ boundary)
    (active : (stores.get id).isActive thread = true) :
    ((stores.propagateOut thread host boundary).2.get id).isActive thread = true := by
  rw [propagateOut]
  split
  · exact active
  · rw [← get_stop_of_ne h] at active
    generalize stores.stop boundary thread = result at active ⊢
    obtain ⟨answer, stopped⟩ := result
    cases answer with
    | error error => exact active
    | ok outputs =>
      -- the host may have no context left to take the outputs, but nothing is lost even then
      have hkeeps : Keeps thread stopped (stopped.change host (·.merge thread outputs)).2 :=
        keeps_change fun h => Store.isActive_of_changeOutput h
      simp only [decodeOutputs_encodeOutputs]
      generalize stopped.change host (·.merge thread outputs) = merged at hkeeps ⊢
      obtain ⟨answer, after⟩ := merged
      cases answer with
      | error error => exact hkeeps id active
      | ok done => exact hkeeps id active

end Stores

end Isolation
