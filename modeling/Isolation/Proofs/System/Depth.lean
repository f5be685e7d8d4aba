import Isolation.Proofs.System.Cleanup
import Isolation.Proofs.System.Steps

/-!
# Dispatches at any depth

Work may dispatch other work, which may do so in turn. What comes of a dispatch depends neither on
how deep it is nested nor on the loader that happens to be in the slot of the thread: it is what the
same dispatch would come to with nothing around it.

## Main definitions

* `Dispatcher` — a way to dispatch, and `Dispatcher.Extends`

## Main results

* `Work.run_of_extends`, `System.dispatchInto_of_extends` — what could be done can still be done
* `System.dispatch_of_le` — a dispatch that comes back comes back in the same way at greater depth
* `System.dispatch_setSlot` — a dispatch does not look at the slot
-/

namespace Isolation

/-- A way to dispatch; none where it cannot be done. -/
abbrev Dispatcher := Request → System → Option (Attempt (Except DispatchError Outcome) × System)

/-- One way to dispatch gives what another one gives, wherever that one gives something. -/
def Dispatcher.Extends (more less : Dispatcher) : Prop :=
  ∀ {request system result}, less request system = some result → more request system = some result

namespace Work

variable {more less : Dispatcher} {thread : ThreadId} {context : StoreId} {work rest : Work}
  {system after : System} {ended : Ended} {writes : List (String × String)}

theorem step?_of_extends (extends' : more.Extends less)
    (h : work.step? less thread context system = some (rest, after)) :
    work.step? more thread context system = some (rest, after) := by
  cases work with
  | dispatch request next =>
    obtain ⟨result, hresult, hnext⟩ := Option.map_eq_some_iff.1 h
    rw [step?, extends' hresult, Option.map_some, hnext]
  | _ => exact h

theorem Reaches.of_extends (extends' : more.Extends less)
    (h : Reaches less thread context work system writes rest after) :
    Reaches more thread context work system writes rest after := by
  induction h with
  | refl => exact .refl _ _
  | step first _ ih => exact .step (step?_of_extends extends' first) ih

theorem run_of_extends (extends' : more.Extends less)
    (h : work.run less thread context system = some (ended, after)) :
    work.run more thread context system = some (ended, after) := by
  obtain ⟨writes, reaches⟩ := exists_reaches h
  exact (reaches.of_extends extends').run_eq_some

end Work

namespace System

variable {more less : Dispatcher} {thread : ThreadId} {host context : StoreId}
  {boundary : LoaderRef} {work item : String} {request : Request} {system after : System}
  {supply : System → Except BoundaryError LoaderRef × System}
  {answer : Attempt (Except DispatchError Outcome)}

theorem invoke_of_extends (extends' : more.Extends less)
    (h : invoke less thread boundary context work item system = some (answer, after)) :
    invoke more thread boundary context work item system = some (answer, after) := by
  cases hcalls : system.calls boundary work with
  | none =>
    obtain ⟨answer, hanswer⟩ := invoke_of_calls_none hcalls
    rw [hanswer] at h ⊢
    exact h
  | some called =>
    rw [invoke_of_calls hcalls] at h ⊢
    obtain ⟨ran, hran, hanswer⟩ := Option.map_eq_some_iff.1 h
    rw [Work.run_of_extends extends' hran, Option.map_some, hanswer]

theorem dispatchInto_of_extends (extends' : more.Extends less)
    (h : dispatchInto less thread host supply work item system = some (answer, after)) :
    dispatchInto more thread host supply work item system = some (answer, after) := by
  rcases hsupply : supply system with ⟨supplied, built⟩
  cases supplied with
  | error error =>
    rw [dispatchInto, hsupply] at h ⊢
    exact h
  | ok boundary =>
    rcases hcarried : built.stores.propagateIn thread host (built.contextOf boundary) with
      ⟨carried, stores⟩
    cases carried with
    | error error =>
      rw [dispatchInto_of_refused hsupply hcarried] at h ⊢
      exact h
    | ok armed =>
      rw [dispatchInto_of_carried hsupply hcarried] at h ⊢
      obtain ⟨left, hleft, hanswer⟩ := Option.map_eq_some_iff.1 h
      rw [invoke_of_extends extends' hleft, Option.map_some, hanswer]

/-- What a dispatch comes to, it comes to as well where there is room for deeper ones. -/
theorem dispatch_of_le {depth deeper : Nat} (le : depth ≤ deeper) :
    Dispatcher.Extends (dispatch thread deeper) (dispatch thread depth) := by
  -- with each level the dispatches that work may ask for grow along with those that are done
  induction depth generalizing deeper with
  | zero => nofun
  | succ depth ih =>
    intro request system result h
    cases deeper with
    | zero => cases le
    | succ deeper =>
      rw [dispatch] at h ⊢
      exact dispatchInto_of_extends (ih (Nat.le_of_succ_le_succ le)) h

/-! ### The slot -/

/-- A dispatch does not look at the slot, and puts back what it finds there. -/
theorem dispatchInto_setSlot {nested : Dispatcher} (slot : Option LoaderRef)
    (blind : supply (system.setSlot thread slot) =
      ((supply system).1, (supply system).2.setSlot thread slot)) :
    dispatchInto nested thread host supply work item (system.setSlot thread slot) =
      (dispatchInto nested thread host supply work item system).map fun result =>
        (result.1, result.2.setSlot thread slot) := by
  rcases hsupply : supply system with ⟨supplied, built⟩
  rw [hsupply] at blind
  cases supplied with
  | error error =>
    rw [dispatchInto, blind, dispatchInto, hsupply]
    rfl
  | ok boundary =>
    have hstores : (built.setSlot thread slot).stores = built.stores := stores_setSlot _ _ _
    have hcontext : (built.setSlot thread slot).contextOf boundary = built.contextOf boundary := by
      cases slot <;> rfl
    -- once the boundary is in the slot, what was there before is gone
    have hentered : ∀ stores, (built.setSlot thread slot).entered thread boundary stores =
        built.entered thread boundary stores := by
      intro stores
      rw [entered, setSlot_setSlot, entered]
    rcases hcarried : built.stores.propagateIn thread host (built.contextOf boundary) with
      ⟨carried, stores⟩
    cases carried with
    | error error =>
      rw [dispatchInto_of_refused hsupply hcarried]
      rw [← hstores, ← hcontext] at hcarried
      rw [dispatchInto_of_refused blind hcarried, hentered, get?_setSlot, Option.map_some,
        setSlot_setSlot]
    | ok armed =>
      rw [dispatchInto_of_carried hsupply hcarried]
      rw [← hstores, ← hcontext] at hcarried
      rw [dispatchInto_of_carried blind hcarried, hentered, get?_setSlot, hcontext,
        Option.map_map]
      congr 1
      funext left
      simp only [Function.comp_apply, setSlot_setSlot]

theorem dispatch_setSlot (depth : Nat) (slot : Option LoaderRef) :
    dispatch thread depth request (system.setSlot thread slot) =
      (dispatch thread depth request system).map fun result =>
        (result.1, result.2.setSlot thread slot) := by
  cases depth with
  | zero => rfl
  | succ depth =>
    have hhost : (system.setSlot thread slot).storeOf request.store =
        system.storeOf request.store := by
      cases slot <;> rfl
    rw [dispatch, dispatch, hhost]
    exact dispatchInto_setSlot slot (target_setSlot request.target slot)

end System

end Isolation
