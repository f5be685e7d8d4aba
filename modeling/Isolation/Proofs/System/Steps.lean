import Isolation.System.Dispatch

/-!
# Work, action by action

A run of work is taken apart into its actions, so that it can be said what holds in between. On the
way the outputs that the work sets are written down.

## Main definitions

* `Work.step?` — one action
* `Work.Reaches` — several actions, with the outputs that they set
* `Work.Alone` — work that dispatches no other work

## Main results

* `Work.Reaches.run_eq`, `Work.exists_reaches` — running work is taking its actions
* `Work.Alone.exists_run` — work that dispatches nothing comes to an end
-/

namespace Isolation

namespace Work

/-- One action of work: what is left of the work, and the system after it. None if the work is at its
end, or if a dispatch cannot be done. -/
def step?
    (nested : Request → System → Option (Attempt (Except DispatchError Outcome) × System))
    (thread : ThreadId) (context : StoreId) : Work → System → Option (Work × System)
  | finish _, _ | crash _, _ => none
  | isActive next, system => some (next ((system.stores.get context).isActive thread), system)
  | input key next, system => some (next ((system.stores.get context).input? thread key), system)
  | env key next, system => some (next ((system.stores.get context).env? thread key), system)
  | output key next, system => some (next ((system.stores.get context).output? thread key), system)
  | put key value next, system =>
    let (answer, stores) := system.stores.change context (·.put thread key value)
    some (next answer, { system with stores })
  | currentLoader next, system => some (next (system.currentId? thread), system)
  | install loader next, system =>
    some (next, system.setSlot thread (loader.bind system.loaderNamed?))
  | load symbol next, system =>
    match system.slots.get? thread with
    | none => some (next none, system)
    | some ref =>
      match system.resolve ref symbol with
      | (.done answer, system) => some (next (some (.done (answer.map LoadedUnit.info))), system)
      | (.crashed c, system) => some (next (some (.crashed c)), system)
  | close loader next, system =>
    some (next, { system with loaders := system.loaders.closeNamed loader })
  | start store snapshot next, system =>
    let (answer, stores) := system.stores.change (system.storeOf store) (·.start thread snapshot)
    some (next answer, { system with stores })
  | stop store next, system =>
    let (answer, stores) := system.stores.stop (system.storeOf store) thread
    some (next answer, { system with stores })
  | .dispatch request next, system =>
    (nested request system).map fun result => (next result.1, result.2)
  | note n next, system => some (next, system.addNote n)

/-- The output that is set next, if that is the next action. -/
def write? : Work → Option (String × String)
  | put key value _ => some (key, value)
  | _ => none

/-- What is left of work at its end. -/
def ofEnded : Ended → Work
  | .done returned => finish returned
  | .crashed c => crash c

/-- Work gets, action by action, to what is left of it. The outputs that it sets on the way are
listed in order. -/
inductive Reaches
    (nested : Request → System → Option (Attempt (Except DispatchError Outcome) × System))
    (thread : ThreadId) (context : StoreId) :
    Work → System → List (String × String) → Work → System → Prop
  | refl (work system) : Reaches nested thread context work system [] work system
  | step {work rest last system between after writes}
      (first : work.step? nested thread context system = some (rest, between))
      (others : Reaches nested thread context rest between writes last after) :
      Reaches nested thread context work system (work.write?.toList ++ writes) last after

variable
  {nested : Request → System → Option (Attempt (Except DispatchError Outcome) × System)}
  {thread : ThreadId} {context : StoreId} {work rest : Work} {system after : System}
  {ended : Ended} {writes : List (String × String)}

/-- What comes of work comes of what is left of it. -/
theorem run_eq_of_step (h : work.step? nested thread context system = some (rest, after)) :
    work.run nested thread context system = rest.run nested thread context after := by
  cases work with
  | finish | crash => cases h
  | isActive | input | env | output | put | currentLoader | install | close | start | stop | note =>
    cases h
    rfl
  | load symbol next =>
    simp only [step?] at h
    simp only [run]
    cases hslot : system.slots.get? thread with
    | none =>
      simp only [hslot] at h ⊢
      cases h
      rfl
    | some ref =>
      simp only [hslot] at h ⊢
      rcases hresolve : system.resolve ref symbol with ⟨answer | c, between⟩
      all_goals
        simp only [hresolve] at h ⊢
        cases h
        rfl
  | dispatch request next =>
    obtain ⟨result, hnested, hresult⟩ := Option.map_eq_some_iff.1 h
    cases hresult
    rw [run, hnested]

theorem Reaches.run_eq (h : Reaches nested thread context work system writes rest after) :
    work.run nested thread context system = rest.run nested thread context after := by
  induction h with
  | refl => rfl
  | step first _ ih => rw [run_eq_of_step first, ih]

theorem run_ofEnded (ended : Ended) :
    (ofEnded ended).run nested thread context system = some (ended, system) := by
  cases ended <;> rfl

/-- Work that gets to its end has run. -/
theorem Reaches.run_eq_some
    (h : Reaches nested thread context work system writes (ofEnded ended) after) :
    work.run nested thread context system = some (ended, after) := by
  rw [h.run_eq, run_ofEnded]

/-- Work that has run got to its end. -/
theorem exists_reaches (h : work.run nested thread context system = some (ended, after)) :
    ∃ writes, Reaches nested thread context work system writes (ofEnded ended) after := by
  -- the induction is on the work; what is left of it depends on the answer that it gets
  induction work generalizing system with
  | finish | crash =>
    cases h
    exact ⟨[], .refl _ _⟩
  | isActive _ ih | input _ _ ih | env _ _ ih | output _ _ ih | put _ _ _ ih | currentLoader _ ih
  | start _ _ _ ih | stop _ _ ih =>
    obtain ⟨writes, hwrites⟩ := ih _ h
    exact ⟨_, .step rfl hwrites⟩
  | install _ _ ih | close _ _ ih | note _ _ ih =>
    obtain ⟨writes, hwrites⟩ := ih h
    exact ⟨_, .step rfl hwrites⟩
  | load symbol next ih =>
    -- there is one action for each of the answers that the loader in the slot may give
    obtain ⟨answer, between, hstep⟩ : ∃ answer between,
        (load symbol next).step? nested thread context system = some (next answer, between) := by
      rw [step?]
      split
      · exact ⟨_, _, rfl⟩
      · split <;> exact ⟨_, _, rfl⟩
    rw [run_eq_of_step hstep] at h
    obtain ⟨writes, hwrites⟩ := ih answer h
    exact ⟨_, .step hstep hwrites⟩
  | dispatch request next ih =>
    rw [run] at h
    split at h
    · next answer between hnested =>
      obtain ⟨writes, hwrites⟩ := ih answer h
      refine ⟨_, .step ?_ hwrites⟩
      rw [step?, hnested, Option.map_some]
    · cases h

/-! ### Work that dispatches nothing -/

/-- Work that dispatches no other work, whatever it is answered. -/
inductive Alone : Work → Prop
  | finish (returned) : Alone (.finish returned)
  | crash (c) : Alone (.crash c)
  | isActive {next} (h : ∀ active, Alone (next active)) : Alone (.isActive next)
  | input {key next} (h : ∀ found, Alone (next found)) : Alone (.input key next)
  | env {key next} (h : ∀ found, Alone (next found)) : Alone (.env key next)
  | output {key next} (h : ∀ found, Alone (next found)) : Alone (.output key next)
  | put {key value next} (h : ∀ answer, Alone (next answer)) : Alone (.put key value next)
  | currentLoader {next} (h : ∀ id, Alone (next id)) : Alone (.currentLoader next)
  | install {loader next} (h : Alone next) : Alone (.install loader next)
  | load {symbol next} (h : ∀ answer, Alone (next answer)) : Alone (.load symbol next)
  | close {loader next} (h : Alone next) : Alone (.close loader next)
  | start {store snapshot next} (h : ∀ answer, Alone (next answer)) :
      Alone (.start store snapshot next)
  | stop {store next} (h : ∀ answer, Alone (next answer)) : Alone (.stop store next)
  | note {n next} (h : Alone next) : Alone (.note n next)

theorem Alone.step (alone : work.Alone)
    (h : work.step? nested thread context system = some (rest, after)) : rest.Alone := by
  cases alone with
  | finish | crash => cases h
  | isActive hnext | input hnext | env hnext | output hnext | put hnext | currentLoader hnext
  | start hnext | stop hnext =>
    cases h
    exact hnext _
  | install hnext | close hnext | note hnext =>
    cases h
    exact hnext
  | load hnext =>
    rw [step?] at h
    split at h
    · cases h
      exact hnext _
    · split at h <;> (cases h; exact hnext _)

/-- Work that dispatches nothing comes to an end. -/
theorem Alone.exists_run (alone : work.Alone) (system : System) :
    ∃ ended ran, work.run nested thread context system = some (ended, ran) := by
  induction alone generalizing system with
  | finish | crash => exact ⟨_, _, rfl⟩
  | isActive _ ih | input _ ih | env _ ih | output _ ih | put _ ih | currentLoader _ ih
  | start _ ih | stop _ ih =>
    exact ih _ _
  | install _ ih | close _ ih | note _ ih => exact ih _
  | load _ ih =>
    rw [run]
    split
    · exact ih _ _
    · split
      · exact ih _ _
      · exact ih _ _

end Work

end Isolation
