import Isolation.Proofs.System.Dispatch

/-!
# What a dispatch cleans up

However a dispatch ends, and whatever its work did meanwhile, the slot of the thread holds again what
it held before, and a context that was carried in is gone. A boundary that is in use already is left
as it is.

Nothing is known here of the way in which work dispatches again, so it may do whatever it likes.

## Main results

* `System.slot_dispatchInto` — the slot is put back
* `System.context?_dispatchInto_of_started`, `System.stores_dispatchInto_of_refused` — the contexts
* `System.dispatchInto_cleansUp` — all of it
-/

namespace Isolation

namespace System

variable {nested : Request → System → Option (Attempt (Except DispatchError Outcome) × System)}
  {thread : ThreadId} {host : StoreId} {work item : String}
  {supply : System → Except BoundaryError LoaderRef × System} {system built after : System}
  {answer : Attempt (Except DispatchError Outcome)} {boundary : LoaderRef}

/-- The slot holds again what it held when the boundary was supplied. -/
theorem slot_dispatchInto
    (ended : dispatchInto nested thread host supply work item system = some (answer, after)) :
    after.slots.get? thread = (supply system).2.slots.get? thread := by
  obtain ⟨error, hsupply⟩ | ⟨boundary, built, hsupply, hends⟩ := dispatchInto_cases ended
  · rw [hsupply]
  -- whatever happened in between, putting the slot back comes last
  · rw [hsupply]
    obtain ⟨_, _, -, rfl⟩ | ⟨_, _, _, _, -, -, rfl⟩ := hends
    · rw [get?_setSlot]
    · rw [get?_setSlot]

/-- A context that was carried in has ended. -/
theorem context?_dispatchInto_of_started {stores : Stores}
    (supplied : supply system = (.ok boundary, built))
    (started : built.stores.propagateIn thread host (built.contextOf boundary) = (.ok true, stores))
    (ended : dispatchInto nested thread host supply work item system = some (answer, after)) :
    after.stores.context? (built.contextOf boundary) thread = none := by
  obtain ⟨different, -⟩ := Stores.propagateIn_true started
  rw [dispatchInto_of_carried supplied started] at ended
  obtain ⟨left, -, hleft⟩ := Option.map_eq_some_iff.1 ended
  cases hleft
  simp [tearDown, Stores.context?_propagateOut different]

/-- If nothing could be carried in, the stores are as they were. -/
theorem stores_dispatchInto_of_refused {error : PropagateError} {stores : Stores}
    (supplied : supply system = (.ok boundary, built))
    (refused : built.stores.propagateIn thread host (built.contextOf boundary) =
      (.error error, stores))
    (ended : dispatchInto nested thread host supply work item system = some (answer, after)) :
    after.stores = built.stores := by
  obtain ⟨-, hsame, -⟩ := Stores.propagateIn_error refused
  rw [dispatchInto_of_refused supplied refused] at ended
  cases ended
  simp [entered, hsame]

/-- Whatever the work of a dispatch does, and however the dispatch ends, if only its boundary is
supplied without touching the slot of the thread: the slot holds what it held before. If a context
was started for the work, there is none in the store of the boundary any more. If that store had a
context already, this context is as it was. -/
theorem dispatchInto_cleansUp
    (untouched : (supply system).2.slots.get? thread = system.slots.get? thread)
    (ended : dispatchInto nested thread host supply work item system = some (answer, after)) :
    after.slots.get? thread = system.slots.get? thread ∧
      ∀ boundary built, supply system = (.ok boundary, built) →
        ((built.stores.propagateIn thread host (built.contextOf boundary)).1 = .ok true →
          after.stores.context? (built.contextOf boundary) thread = none) ∧
        ((built.stores.propagateIn thread host (built.contextOf boundary)).1 =
            .error (.context .alreadyActive) →
          ∃ context, built.stores.context? (built.contextOf boundary) thread = some context ∧
            after.stores.context? (built.contextOf boundary) thread = some context) := by
  constructor
  · rw [slot_dispatchInto ended, untouched]
  · intro boundary built supplied
    rcases hcarried : built.stores.propagateIn thread host (built.contextOf boundary) with
      ⟨carried, stores⟩
    constructor
    · rintro rfl
      exact context?_dispatchInto_of_started supplied hcarried ended
    · rintro rfl
      obtain ⟨-, -, -, context, hcontext⟩ := Stores.propagateIn_error hcarried
      rw [stores_dispatchInto_of_refused supplied hcarried ended]
      exact ⟨context, hcontext, hcontext⟩

/-! ### Work that cleans up itself, and badly -/

/-- A directory with two units. -/
def twoUnits : FileSystem :=
  { root := .directory [("lib", .directory [("A.unit", .file [1]), ("C.unit", .file [2])])]
    working := [] }

/-- A host on that directory, two boundaries below it with stores of their own, and a context of the
process. -/
def staged (registry : Registry) : System :=
  let system := System.run
    [.host [.directory "lib"] registry processStore, .boundary {} 0 .empty, .boundary {} 0 .empty]
    { files := twoUnits, stores := (({} : Stores).change processStore (·.start 0 {})).2 }
  { system with loaders := (system.loaders.bind "B" 1).bind "D" 2 }

/-- Work that empties the slot, ends both contexts, starts its own one anew, and crashes. -/
def unruly : Work :=
  .install none <| .stop .process fun _ => .stop (.ofLoader "B") fun _ =>
    .start (.ofLoader "B") {} fun _ => .crash .silent

/-- A system in which the unit does that. -/
def unrulyStage : System := staged (Registry.empty.registerWork "A" fun _ => unruly)

/-- Even this work leaves nothing behind in the slot and in the store of the boundary. -/
theorem dispatchInto_cleansUp_unruly :
    ∃ answer after, dispatchInto (fun _ _ => none) 0 processStore (fun system => (.ok 1, system))
        "A" "x" unrulyStage = some (answer, after) ∧
      after.slots.get? 0 = none ∧ after.stores.context? 1 0 = none := by
  have hsome : (dispatchInto (fun _ _ => none) 0 processStore (fun system => (.ok 1, system))
      "A" "x" unrulyStage).isSome = true := by decide +kernel
  obtain ⟨⟨answer, after⟩, ended⟩ := Option.isSome_iff_exists.1 hsome
  obtain ⟨slot, rest⟩ := dispatchInto_cleansUp rfl ended
  refine ⟨answer, after, ended, ?_, ?_⟩
  · have hslot : (unrulyStage.slots.get? 0).isNone = true := by decide +kernel
    rw [slot]
    exact Option.isNone_iff_eq_none.1 hslot
  · have hcontext : unrulyStage.contextOf 1 = 1 := by decide +kernel
    have hstarted : (unrulyStage.stores.propagateIn 0 processStore
        (unrulyStage.contextOf 1)).1 = .ok true := by decide +kernel
    rw [← hcontext]
    exact (rest 1 unrulyStage rfl).1 hstarted

end System

end Isolation
