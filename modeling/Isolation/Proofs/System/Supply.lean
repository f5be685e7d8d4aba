import Isolation.Proofs.Context.Carry
import Isolation.Proofs.Loader.Run
import Isolation.System.Dispatch

/-!
# Boundaries that are supplied

Before a dispatch does anything else it gets hold of its boundary, which may have to be built. This
concerns the loaders, and a store may be made for the boundary; what contexts there are does not
change, nor do slots and the log. In turn it makes no difference what is in the slots.

## Main results

* `System.target_cases` — a boundary is there, or is built
* `System.get_stores_target`, `System.target_frame` — what supplying a boundary leaves alone
* `System.target_setSlot` — it does not look at the slots
-/

namespace Isolation

namespace System

variable {thread other : ThreadId} {system : System}

/-! ### The slot of a thread -/

@[simp] theorem get?_setSlot (system : System) (thread : ThreadId) (slot : Option LoaderRef) :
    (system.setSlot thread slot).slots.get? thread = slot := by
  cases slot <;> simp [setSlot, ThreadMap.get?_set, ThreadMap.get?_erase]

theorem get?_setSlot_of_ne (h : other ≠ thread) (slot : Option LoaderRef) :
    (system.setSlot thread slot).slots.get? other = system.slots.get? other := by
  cases slot <;> simp [setSlot, ThreadMap.get?_set, ThreadMap.get?_erase, h]

@[simp] theorem stores_setSlot (system : System) (thread : ThreadId) (slot : Option LoaderRef) :
    (system.setSlot thread slot).stores = system.stores := by
  cases slot <;> rfl

@[simp] theorem loaders_setSlot (system : System) (thread : ThreadId) (slot : Option LoaderRef) :
    (system.setSlot thread slot).loaders = system.loaders := by
  cases slot <;> rfl

@[simp] theorem log_setSlot (system : System) (thread : ThreadId) (slot : Option LoaderRef) :
    (system.setSlot thread slot).log = system.log := by
  cases slot <;> rfl

theorem setSlot_setSlot (system : System) (thread : ThreadId) (slot other : Option LoaderRef) :
    (system.setSlot thread slot).setSlot thread other = system.setSlot thread other := by
  cases slot <;> cases other <;> simp [setSlot, ThreadMap.set, ThreadMap.erase, ThreadMap.without]

/-! ### What is supplied -/

/-- Either the boundary is there, or it is built with a registry that is there. -/
theorem target_cases (system : System) (target : Target) :
    (∃ boundary, system.target target = (.ok boundary, system)) ∨
    ∃ policy parent registry,
      system.target target = system.makeBoundary policy parent (system.registryOf registry) := by
  cases target with
  | existing name => exact .inl ⟨_, rfl⟩
  | build parent registry policy =>
    rw [System.target]
    cases system.loaderNamed? parent with
    | none | some => exact .inr ⟨_, _, _, rfl⟩

/-- Supplying a boundary changes no store; one that is made for it is empty. -/
theorem get_stores_target (system : System) (target : Target) (id : StoreId) :
    (system.target target).2.stores.get id = system.stores.get id := by
  obtain ⟨boundary, h⟩ | ⟨policy, parent, registry, h⟩ := system.target_cases target
  · rw [h]
  · rw [h]
    obtain ⟨error, hmake⟩ | ⟨_, _, _, stores, -, -, rfl | rfl, hmake⟩ :=
      system.makeBoundary_cases policy parent (system.registryOf registry)
    · rw [hmake]
    · rw [hmake]
    · rw [hmake]
      exact Stores.get_make

theorem context?_target (system : System) (target : Target) (id : StoreId) :
    (system.target target).2.stores.context? id thread = system.stores.context? id thread := by
  rw [Stores.context?, get_stores_target, Stores.context?]

theorem target_frame (system : System) (target : Target) :
    (system.target target).2.slots = system.slots ∧ (system.target target).2.log = system.log := by
  obtain ⟨boundary, h⟩ | ⟨policy, parent, registry, h⟩ := system.target_cases target
  · rw [h]
    exact ⟨rfl, rfl⟩
  · rw [h]
    obtain ⟨error, hmake⟩ | ⟨_, _, _, _, -, -, -, hmake⟩ :=
      system.makeBoundary_cases policy parent (system.registryOf registry)
    · rw [hmake]
      exact ⟨rfl, rfl⟩
    · rw [hmake]
      exact ⟨rfl, rfl⟩

/-! ### Whatever is in the slot -/

theorem makeBoundary_setSlot (policy : Policy) (parent : LoaderRef) (registry : Registry)
    (slot : Option LoaderRef) :
    (system.setSlot thread slot).makeBoundary policy parent registry =
      ((system.makeBoundary policy parent registry).1,
        (system.makeBoundary policy parent registry).2.setSlot thread slot) := by
  cases slot with
  | none | some =>
    simp only [makeBoundary, setSlot]
    cases effectivePolicy system.files policy with
    | error error => rfl
    | ok effective =>
      simp only
      cases openAll system.files effective.archives with
      | error error => rfl
      | ok isolated =>
        simp only
        split <;> rfl

theorem target_setSlot (target : Target) (slot : Option LoaderRef) :
    (system.setSlot thread slot).target target =
      ((system.target target).1, (system.target target).2.setSlot thread slot) := by
  have hnamed : ∀ name, (system.setSlot thread slot).loaderNamed? name = system.loaderNamed? name := by
    intro name
    rw [loaderNamed?, loaders_setSlot, loaderNamed?]
  have hregistry : ∀ name, (system.setSlot thread slot).registryOf name = system.registryOf name := by
    intro name
    cases slot <;> rfl
  cases target with
  | existing name => simp only [System.target, hnamed, loaders_setSlot]
  | build parent registry policy =>
    simp only [System.target, hnamed, loaders_setSlot, hregistry, makeBoundary_setSlot]
    cases system.loaderNamed? parent <;> rfl

end System

end Isolation
