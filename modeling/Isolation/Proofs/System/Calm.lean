import Isolation.Proofs.System.Dispatch
import Isolation.Proofs.System.Steps

/-!
# Work that leaves contexts alone

Work is calm if it neither starts nor ends contexts itself. It may dispatch other work, and that
does start and end contexts, but only such as were not there before. So where all entry points are
calm, every dispatch loses no context at all, at any depth.

## Main definitions

* `Work.Calm` — work that neither starts nor ends contexts
* `System.Calm` — all entry points that can be reached are calm

## Main results

* `Loaders.Calm.resolve` — resolving names finds calm entry points
* `Work.Calm.run` — calm work loses no context
* `System.Calm.dispatch` — nor does a dispatch where all is calm
* `System.Entry.kept_of_calm` — so the contexts that were carried in are there in the end
-/

namespace Isolation

/-- Work that neither starts nor ends contexts itself, whatever it is answered. -/
inductive Work.Calm : Work → Prop
  | finish (returned) : Calm (.finish returned)
  | crash (c) : Calm (.crash c)
  | isActive {next} (h : ∀ active, Calm (next active)) : Calm (.isActive next)
  | input {key next} (h : ∀ found, Calm (next found)) : Calm (.input key next)
  | env {key next} (h : ∀ found, Calm (next found)) : Calm (.env key next)
  | output {key next} (h : ∀ found, Calm (next found)) : Calm (.output key next)
  | put {key value next} (h : ∀ answer, Calm (next answer)) : Calm (.put key value next)
  | currentLoader {next} (h : ∀ id, Calm (next id)) : Calm (.currentLoader next)
  | install {loader next} (h : Calm next) : Calm (.install loader next)
  | load {symbol next} (h : ∀ answer, Calm (next answer)) : Calm (.load symbol next)
  | close {loader next} (h : Calm next) : Calm (.close loader next)
  | dispatch {request next} (h : ∀ answer, Calm (next answer)) : Calm (.dispatch request next)
  | note {n next} (h : Calm next) : Calm (.note n next)

/-- All entry points of a unit are calm. -/
def Entries.Calm (entries : Entries) : Prop :=
  ∀ member handler, entries.find? member = some handler → ∀ invocation, (handler invocation).Calm

/-- All entry points of a registry are calm. -/
def Registry.Calm (registry : Registry) : Prop := ∀ unit, (registry.link unit).Calm

/-- All units that were made have calm entry points. -/
def CalmUnits (units : StringMap LoadedUnit) : Prop :=
  ∀ name unit, units.find? name = some unit → unit.entries.Calm

/-- All entry points that a loader has linked or can link are calm. -/
def Loader.Calm : Loader → Prop
  | host h => h.registry.Calm ∧ CalmUnits h.cache
  | boundary b => b.registry.Calm ∧ CalmUnits b.cache
  | relay _ => True

/-- All entry points of all loaders are calm. -/
def Loaders.Calm (loaders : Loaders) : Prop :=
  ∀ ref loader, loaders.get? ref = some loader → loader.Calm

/-- All entry points that can be reached are calm. -/
structure System.Calm (system : System) : Prop where
  loaders : system.loaders.Calm
  registries : ∀ name registry, system.registries.find? name = some registry → registry.Calm

/-! ### Loaders -/

theorem Entries.calm_empty : Entries.Calm ∅ := by
  intro member handler h
  cases h

theorem Registry.calm_empty : Registry.empty.Calm := fun _ => Entries.calm_empty

theorem Registry.Calm.registerWork {registry : Registry} (calm : registry.Calm) (unit : String)
    {handler : Handler} (h : ∀ invocation, (handler invocation).Calm) :
    (registry.registerWork unit handler).Calm := by
  intro other member found hfound
  rw [link, Registry.registerWork, register, StringMap.find?_insert] at hfound
  split at hfound
  · rw [Option.getD_some, StringMap.find?_insert] at hfound
    split at hfound
    · cases hfound
      exact h
    · exact calm unit member found hfound
  · exact calm other member found hfound

theorem calmUnits_empty : CalmUnits ∅ := by
  intro name unit h
  cases h

theorem CalmUnits.insert {units : StringMap LoadedUnit} {unit : LoadedUnit} {symbol : String}
    (calm : CalmUnits units) (new : unit.entries.Calm) : CalmUnits (units.insert symbol unit) := by
  intro name other h
  rw [StringMap.find?_insert] at h
  split at h
  · cases h
    exact new
  · exact calm name other h

theorem CalmUnits.of_known {units : StringMap LoadedUnit} {unit : LoadedUnit} {symbol : String}
    (calm : CalmUnits units) (known : units.find? symbol = some unit) :
    ∀ other, (.ok unit : Except ResolveError LoadedUnit) = .ok other → other.entries.Calm := by
  intro other h
  cases h
  exact calm symbol unit known

/-- A search in opened archives makes units with calm entry points only. -/
theorem CalmUnits.materialize {units : StringMap LoadedUnit} {registry : Registry}
    (calm : CalmUnits units) (link : registry.Calm) (files : FileSystem)
    (archives : List OpenArchive) (id : LoaderId) (symbol : String) (serial : Nat) :
    (∀ unit, (materialize files archives id registry symbol serial units).1 = .ok unit →
        unit.entries.Calm) ∧
      CalmUnits (materialize files archives id registry symbol serial units).2.1 := by
  obtain ⟨error, -, h⟩ | ⟨-, h⟩ | ⟨located, -, h⟩ :=
    materialize_cases files archives id registry symbol serial units
  · rw [h]
    exact ⟨nofun, calm⟩
  · rw [h]
    exact ⟨nofun, calm⟩
  · rw [h]
    refine ⟨?_, calm.insert (link symbol)⟩
    intro unit hunit
    cases hunit
    exact link symbol

namespace Loaders

variable {loaders : Loaders} {ref : LoaderRef}

theorem Calm.set {loader : Loader} (calm : loaders.Calm) (new : loader.Calm) :
    (loaders.set ref loader).Calm := by
  intro other found h
  rw [get?, Loaders.set, List.getElem?_set] at h
  split at h
  · split at h
    · cases h
      exact new
    · cases h
  · exact calm other found h

theorem Calm.add {loader : Loader} (calm : loaders.Calm) (new : loader.Calm) :
    (loaders.add loader).2.Calm := by
  intro other found h
  simp only [Loaders.add, get?, List.getElem?_append] at h
  split at h
  · exact calm other found h
  · rw [List.getElem?_singleton] at h
    split at h
    · cases h
      exact new
    · cases h

theorem Calm.close (calm : loaders.Calm) : (loaders.close ref).Calm := by
  rw [Loaders.close]
  cases here : loaders.get? ref with
  | none => exact calm
  | some loader =>
    refine calm.set ?_
    have hloader := calm ref loader here
    cases loader with
    | host | relay => exact hloader
    | boundary b => exact ⟨hloader.1, calmUnits_empty⟩

theorem Calm.closeNamed (calm : loaders.Calm) (name : String) : (loaders.closeNamed name).Calm := by
  rw [Loaders.closeNamed]
  split
  · exact calm.close
  · exact calm

/-- After a request all is calm, and so is what was found. -/
def CalmAnswer (result : Attempt (Except ResolveError LoadedUnit) × Loaders) : Prop :=
  result.2.Calm ∧ ∀ unit, result.1 = .done (.ok unit) → unit.entries.Calm

theorem Calm.error (calm : loaders.Calm) (error : ResolveError) :
    CalmAnswer (.done (.error error), loaders) :=
  ⟨calm, nofun⟩

theorem Calm.keepHost {result : Except ResolveError LoadedUnit × Host × Nat} (calm : loaders.Calm)
    (answer : ∀ unit, result.1 = .ok unit → unit.entries.Calm)
    (host : (Loader.host result.2.1).Calm) : CalmAnswer (loaders.keepHost ref result) := by
  refine ⟨calm.set host, ?_⟩
  intro unit h
  exact answer unit (Attempt.done.inj h)

theorem Calm.keepBoundary {result : Except ResolveError LoadedUnit × Boundary × Nat}
    (calm : loaders.Calm) (answer : ∀ unit, result.1 = .ok unit → unit.entries.Calm)
    (boundary : (Loader.boundary result.2.1).Calm) :
    CalmAnswer (loaders.keepBoundary ref result) := by
  refine ⟨calm.set boundary, ?_⟩
  intro unit h
  exact answer unit (Attempt.done.inj h)

end Loaders

theorem Host.calm_resolve {host : Host} (calm : (Loader.host host).Calm) (files : FileSystem)
    (symbol : String) (serial : Nat) :
    (∀ unit, (host.resolve files symbol serial).1 = .ok unit → unit.entries.Calm) ∧
      (Loader.host (host.resolve files symbol serial).2.1).Calm := by
  rw [Host.resolve]
  split
  · next unit known =>
    exact ⟨calm.2.of_known known, calm⟩
  · have made := calm.2.materialize calm.1 files host.opened host.id symbol serial
    exact ⟨made.1, calm.1, made.2⟩

namespace Boundary

variable {boundary : Boundary}

theorem calm_resolveIsolated (calm : (Loader.boundary boundary).Calm) (files : FileSystem)
    (symbol : String) (serial : Nat) :
    (∀ unit, (boundary.resolveIsolated files symbol serial).1 = .ok unit → unit.entries.Calm) ∧
      (Loader.boundary (boundary.resolveIsolated files symbol serial).2.1).Calm := by
  rw [resolveIsolated]
  split
  · next unit known =>
    exact ⟨calm.2.of_known known, calm⟩
  · split
    · exact ⟨nofun, calm⟩
    · next sets _ =>
      have made := calm.2.materialize calm.1 files sets.isolated boundary.id symbol serial
      exact ⟨made.1, calm.1, made.2⟩

theorem calm_resolveFallback (calm : (Loader.boundary boundary).Calm) (files : FileSystem)
    (symbol : String) (serial : Nat) :
    (∀ unit, (boundary.resolveFallback files symbol serial).1 = .ok unit → unit.entries.Calm) ∧
      (Loader.boundary (boundary.resolveFallback files symbol serial).2.1).Calm := by
  rw [resolveFallback]
  split
  · next unit known =>
    exact ⟨calm.2.of_known known, calm⟩
  · split
    · exact ⟨nofun, calm⟩
    · split
      · exact ⟨nofun, calm⟩
      · next opened _ =>
        have made := calm.2.materialize calm.1 files opened boundary.id symbol serial
        exact ⟨made.1, calm.1, made.2⟩

end Boundary

namespace Loaders

variable {loaders : Loaders}

/-- A unit of the parent stays calm whether or not it counts. -/
theorem Calm.unlessClosed {unit : LoadedUnit} (calm : loaders.Calm) (new : unit.entries.Calm)
    (ref : LoaderRef) (boundary : Boundary) :
    CalmAnswer (unlessClosed ref boundary unit loaders) := by
  have found : CalmAnswer (.done (.ok unit), loaders) := by
    refine ⟨calm, ?_⟩
    intro other h
    cases h
    exact new
  rw [Loaders.unlessClosed]
  split
  · split
    · exact calm.error _
    · exact found
  · exact found

theorem Calm.boundary? {ref : LoaderRef} {boundary : Boundary} (calm : loaders.Calm)
    (here : loaders.boundary? ref = some boundary) : (Loader.boundary boundary).Calm := by
  rw [Loaders.boundary?] at here
  split at here
  · next b hget =>
    cases here
    exact calm ref _ hget
  · cases here

/-- A relay that does not break off passes on what the loader behind it answers. -/
theorem Calm.passOn {files : FileSystem} {symbol : String} {ref : LoaderRef} {relay : Relay}
    (calm : loaders.Calm)
    (behind : relay.inner < ref → CalmAnswer (Loaders.resolve files symbol relay.inner loaders)) :
    CalmAnswer
      (match relay.breaksOff with
      | some message => (.crashed (.text message), loaders)
      | none =>
        if relay.inner < ref then Loaders.resolve files symbol relay.inner loaders
        else (.done (.error (.notFound symbol)), loaders)) := by
  split
  · refine ⟨calm, ?_⟩
    intro unit h
    cases h
  · split
    · next hlt => exact behind hlt
    · exact calm.error _

/-- Resolving names finds calm entry points. The induction goes up the chain of parents. -/
theorem Calm.resolve (files : FileSystem) (symbol : String) (ref : LoaderRef)
    (calm : loaders.Calm) : CalmAnswer (Loaders.resolve files symbol ref loaders) := by
  induction ref using Nat.strong_induction_on generalizing loaders with
  | _ ref ih =>
    rw [Loaders.resolve]
    cases here : loaders.get? ref with
    | none => exact calm.error _
    | some loader =>
      have hloader := calm ref loader here
      cases loader with
      | host host =>
        have found := Host.calm_resolve hloader files symbol loaders.nextSerial
        exact calm.keepHost found.1 found.2
      | relay relay =>
        -- closing a boundary takes its units away, and asks nothing of the others
        cases hcloses : relay.closes with
        | none =>
          simp only [hcloses]
          exact calm.passOn fun hlt => ih relay.inner hlt calm
        | some name =>
          have closed : (loaders.closeNamed name).Calm := calm.closeNamed name
          simp only [hcloses]
          exact closed.passOn fun hlt => ih relay.inner hlt closed
      | boundary boundary =>
        simp only
        split
        · exact calm.error _
        · split
          · have found := Boundary.calm_resolveIsolated hloader files symbol loaders.nextSerial
            exact calm.keepBoundary found.1 found.2
          · split
            · next hlt =>
              have parent := ih boundary.parent hlt calm
              split
              · next unit after heq =>
                rw [heq] at parent
                exact parent.1.unlessClosed (parent.2 unit rfl) ref boundary
              · exact parent
            · exact calm.error _
          · split
            · next unit known =>
              exact ⟨calm, fun other h => hloader.2.of_known known other (Attempt.done.inj h)⟩
            · split
              · next hlt =>
                have parent := ih boundary.parent hlt calm
                split
                · next unit after heq =>
                  rw [heq] at parent
                  exact parent.1.unlessClosed (parent.2 unit rfl) ref boundary
                · next missing after heq =>
                  rw [heq] at parent
                  split
                  -- the boundary is looked up again, but all loaders stayed calm in between
                  · next now hnow =>
                    have found := Boundary.calm_resolveFallback (parent.1.boundary? hnow) files
                      symbol after.nextSerial
                    exact parent.1.keepBoundary found.1 found.2
                  · exact parent.1.error _
                · exact parent
              · exact calm.error _

end Loaders

/-! ### The system -/

namespace System

variable {thread : ThreadId} {system after : System}

/-- Whether all is calm does not depend on the slots. -/
theorem Calm.setSlot (calm : system.Calm) (slot : Option LoaderRef) :
    (system.setSlot thread slot).Calm := by
  cases slot <;> exact ⟨calm.loaders, calm.registries⟩

theorem Calm.registryOf (calm : system.Calm) (name : Option String) :
    (system.registryOf name).Calm := by
  cases h : name.bind system.registries.find? with
  | none =>
    rw [System.registryOf, h]
    exact Registry.calm_empty
  | some registry =>
    obtain ⟨found, -, hfound⟩ := Option.bind_eq_some_iff.1 h
    rw [System.registryOf, h]
    exact calm.registries found registry hfound

theorem Calm.withStores (calm : system.Calm) (stores : Stores) :
    ({ system with stores } : System).Calm :=
  ⟨calm.loaders, calm.registries⟩

theorem Calm.closeNamed (calm : system.Calm) (name : String) :
    ({ system with loaders := system.loaders.closeNamed name } : System).Calm :=
  ⟨calm.loaders.closeNamed name, calm.registries⟩

theorem Calm.addNote (calm : system.Calm) (n : Note) : (system.addNote n).Calm :=
  ⟨calm.loaders, calm.registries⟩

/-- Resolving a name concerns the loaders only. -/
theorem Calm.resolve {ref : LoaderRef} {symbol : String}
    {answer : Attempt (Except ResolveError LoadedUnit)} (calm : system.Calm)
    (h : system.resolve ref symbol = (answer, after)) :
    after.Calm ∧ after.stores = system.stores ∧
      ∀ unit, answer = .done (.ok unit) → unit.entries.Calm := by
  have found := calm.loaders.resolve system.files symbol ref
  obtain ⟨rfl, rfl⟩ := Prod.mk.inj h
  exact ⟨⟨found.1, calm.registries⟩, rfl, found.2⟩

/-- The entry points that are called are calm. -/
theorem Calm.calls {ref : LoaderRef} {work : String} {unit : LoadedUnit} {handler : Handler}
    (calm : system.Calm) (h : system.calls ref work = some (unit, handler))
    (invocation : Invocation) : (handler invocation).Calm := by
  obtain ⟨hanswer, hentry⟩ := calls_eq_some h
  obtain ⟨-, -, hunit⟩ := calm.resolve (Prod.ext hanswer rfl)
  exact hunit unit rfl runEntry handler hentry invocation

/-- Building a boundary keeps all calm and loses no context. -/
theorem Calm.makeBoundary {registry : Registry} (calm : system.Calm) (link : registry.Calm)
    (policy : Policy) (parent : LoaderRef) :
    (system.makeBoundary policy parent registry).2.Calm ∧
      Stores.Keeps thread system.stores (system.makeBoundary policy parent registry).2.stores := by
  have hid : system.loaders.takeId.2.Calm := calm.loaders
  obtain ⟨error, hmake⟩ | ⟨_, _, _, stores, -, -, hstores, hmake⟩ :=
    system.makeBoundary_cases policy parent registry
  · rw [hmake]
    exact ⟨⟨hid, calm.registries⟩, .refl thread _⟩
  · rw [hmake]
    refine ⟨⟨hid.add ⟨link, calmUnits_empty⟩, calm.registries⟩, ?_⟩
    obtain rfl | rfl := hstores
    · exact .refl thread _
    · exact Stores.keeps_make

theorem Calm.makeHost {registry : Registry} (calm : system.Calm) (link : registry.Calm)
    (archives : List Archive) (context : StoreId) :
    (system.makeHost archives registry context).2.Calm := by
  have hid : system.loaders.takeId.2.Calm := calm.loaders
  rw [System.makeHost]
  split
  · exact calm
  · exact ⟨hid.add ⟨link, calmUnits_empty⟩, calm.registries⟩

theorem Calm.target (calm : system.Calm) (target : Target) :
    (system.target target).2.Calm ∧
      Stores.Keeps thread system.stores (system.target target).2.stores := by
  obtain ⟨boundary, h⟩ | ⟨policy, parent, registry, h⟩ := system.target_cases target
  · rw [h]
    exact ⟨calm, .refl thread _⟩
  · rw [h]
    exact calm.makeBoundary (calm.registryOf registry) policy parent

/-- A way to dispatch that keeps all calm and loses no context of a thread. -/
def Careful (thread : ThreadId)
    (dispatch : Request → System → Option (Attempt (Except DispatchError Outcome) × System)) :
    Prop :=
  ∀ {request system answer after}, system.Calm → dispatch request system = some (answer, after) →
    after.Calm ∧ Stores.Keeps thread system.stores after.stores

end System

/-! ### Calm work -/

namespace Work

variable
  {nested : Request → System → Option (Attempt (Except DispatchError Outcome) × System)}
  {thread : ThreadId} {context : StoreId} {work rest : Work} {system after : System}
  {ended : Ended} {writes : List (String × String)}

theorem Calm.step (calm : work.Calm)
    (h : work.step? nested thread context system = some (rest, after)) : rest.Calm := by
  cases calm with
  | finish | crash => cases h
  | isActive hnext | input hnext | env hnext | output hnext | put hnext | currentLoader hnext =>
    cases h
    exact hnext _
  | install hnext | close hnext | note hnext =>
    cases h
    exact hnext
  | load hnext =>
    rw [step?] at h
    split at h
    · cases h
      exact hnext _
    · split at h <;> (cases h; exact hnext _)
  | dispatch hnext =>
    obtain ⟨result, -, hresult⟩ := Option.map_eq_some_iff.1 h
    cases hresult
    exact hnext _

theorem Calm.reaches (calm : work.Calm)
    (h : Reaches nested thread context work system writes rest after) : rest.Calm := by
  induction h with
  | refl => exact calm
  | step first _ ih => exact ih (calm.step first)

/-- An action of calm work is a dispatch, or it keeps all calm, and all that it does to the stores is
to set an output in the context of the work. -/
theorem Calm.step_cases (calm : work.Calm)
    (h : work.step? nested thread context system = some (rest, after)) :
    (∃ request next answer, work = .dispatch request next ∧
        nested request system = some (answer, after) ∧ rest = next answer) ∨
      (system.Calm → after.Calm) ∧
        after.stores = system.stores.puts thread context work.write?.toList := by
  cases calm with
  | finish | crash => cases h
  | isActive | input | env | output | currentLoader =>
    cases h
    exact .inr ⟨id, rfl⟩
  | put =>
    cases h
    exact .inr ⟨fun all => all.withStores _, rfl⟩
  | install =>
    cases h
    exact .inr ⟨fun all => all.setSlot _, System.stores_setSlot _ _ _⟩
  | load =>
    rw [step?] at h
    split at h
    · cases h
      exact .inr ⟨id, rfl⟩
    · split at h
      · next hresolve =>
        cases h
        exact .inr ⟨fun all => (all.resolve hresolve).1, (congrArg (·.2.stores) hresolve).symm⟩
      · next hresolve =>
        cases h
        exact .inr ⟨fun all => (all.resolve hresolve).1, (congrArg (·.2.stores) hresolve).symm⟩
  | close =>
    cases h
    exact .inr ⟨fun all => all.closeNamed _, rfl⟩
  | dispatch =>
    obtain ⟨result, hnested, hresult⟩ := Option.map_eq_some_iff.1 h
    cases hresult
    exact .inl ⟨_, _, _, rfl, hnested, rfl⟩
  | note =>
    cases h
    exact .inr ⟨fun all => all.addNote _, rfl⟩

/-- Calm work that dispatches nothing does nothing to the stores but to set its outputs. -/
theorem Reaches.stores_eq (calm : work.Calm) (alone : work.Alone)
    (h : Reaches nested thread context work system writes rest after) :
    after.stores = system.stores.puts thread context writes := by
  induction h with
  | refl => rfl
  | step first _ ih =>
    obtain ⟨_, _, _, rfl, -⟩ | ⟨-, hstores⟩ := calm.step_cases first
    · cases alone
    · rw [Stores.puts_append, ← hstores]
      exact ih (calm.step first) (alone.step first)

/-- Calm work keeps all calm and loses no context, if the dispatches it asks for do. -/
theorem Calm.run (careful : System.Careful thread nested) (calm : work.Calm) (all : system.Calm)
    (run : work.run nested thread context system = some (ended, after)) :
    after.Calm ∧ Stores.Keeps thread system.stores after.stores := by
  obtain ⟨writes, reaches⟩ := exists_reaches run
  clear run
  generalize ofEnded ended = rest at reaches
  -- the induction is on the actions; only an output that is set and a dispatch change stores
  induction reaches with
  | refl => exact ⟨all, .refl thread _⟩
  | step first _ ih =>
    obtain ⟨_, _, _, -, hnested, -⟩ | ⟨hcalm, hstores⟩ := calm.step_cases first
    · obtain ⟨hbetween, hkept⟩ := careful all hnested
      obtain ⟨hafter, hkeeps⟩ := ih (calm.step first) hbetween
      exact ⟨hafter, hkept.trans hkeeps⟩
    · obtain ⟨hafter, hkeeps⟩ := ih (calm.step first) (hcalm all)
      rw [hstores] at hkeeps
      exact ⟨hafter, (Stores.keeps_puts _).trans hkeeps⟩

end Work

namespace System

variable
  {nested : Request → System → Option (Attempt (Except DispatchError Outcome) × System)}
  {thread : ThreadId} {host context : StoreId} {boundary : LoaderRef} {work item : String}
  {system after : System} {answer : Attempt (Except DispatchError Outcome)}

/-- Invoking an entry point keeps all calm and loses no context. -/
theorem Calm.invoke (careful : Careful thread nested) (calm : system.Calm)
    (h : System.invoke nested thread boundary context work item system = some (answer, after)) :
    after.Calm ∧ Stores.Keeps thread system.stores after.stores := by
  have hresolved : (system.resolve boundary work).2.Calm := (calm.resolve rfl).1
  cases hcalls : system.calls boundary work with
  | none =>
    obtain ⟨answer, hanswer⟩ := invoke_of_calls_none hcalls
    rw [hanswer] at h
    cases h
    exact ⟨hresolved, .refl thread _⟩
  | some called =>
    rw [invoke_of_calls hcalls] at h
    obtain ⟨⟨ended, ran⟩, hran, hanswer⟩ := Option.map_eq_some_iff.1 h
    cases hanswer
    have hrun := (calm.calls hcalls _).run careful hresolved hran
    rw [resolve_stores] at hrun
    exact hrun

/-- Ending the context that was carried in loses no context that was there before. -/
theorem Calm.tearDown {before : System} {armed : Bool}
    (calm : system.Calm) (kept : Stores.Keeps thread before.stores system.stores)
    (new : armed = true → (before.stores.get context).isActive thread = false) :
    (System.tearDown thread host context armed system).2.Calm ∧
      Stores.Keeps thread before.stores
        (System.tearDown thread host context armed system).2.stores := by
  rw [tearDown_eq]
  refine ⟨calm.withStores _, ?_⟩
  cases armed with
  | false => exact kept
  | true =>
    intro id active
    -- a store with a context from before is not the one into which a context was carried
    have hne : id ≠ context := by
      rintro rfl
      rw [new rfl] at active
      cases active
    simp only [if_true]
    exact Stores.isActive_propagateOut_of_ne hne (kept id active)

/-- A dispatch keeps all calm and loses no context, if the dispatches that work asks for do. -/
theorem Calm.dispatchInto {target : Target} (careful : Careful thread nested) (calm : system.Calm)
    (h : System.dispatchInto nested thread host (·.target target) work item system =
      some (answer, after)) :
    after.Calm ∧ Stores.Keeps thread system.stores after.stores := by
  have supplied : (system.target target).2.Calm ∧
      Stores.Keeps thread system.stores (system.target target).2.stores := calm.target target
  obtain ⟨error, hsupply⟩ | ⟨boundary, built, hsupply, hends⟩ := dispatchInto_cases h
  · rw [hsupply] at supplied
    exact supplied
  · rw [hsupply] at supplied
    obtain ⟨hbuilt, hkept⟩ := supplied
    have hcases := Stores.propagateIn_cases built.stores thread host (built.contextOf boundary)
    have hkeeps : Stores.Keeps thread built.stores
      (built.stores.propagateIn thread host (built.contextOf boundary)).2 := Stores.keeps_propagateIn
    have hentered : ∀ stores, (built.entered thread boundary stores).Calm := fun stores =>
      (hbuilt.setSlot (some boundary)).withStores stores
    obtain ⟨_, stores, hcarried, rfl⟩ | ⟨armed, stores, _, ran, hcarried, hleft, rfl⟩ := hends
    · rw [hcarried] at hkeeps
      rw [stores_setSlot]
      exact ⟨(hentered stores).setSlot _, hkept.trans hkeeps⟩
    · rw [hcarried] at hcases hkeeps
      obtain ⟨hran, hinside⟩ := (hentered stores).invoke careful hleft
      -- if a context was carried in, there was none before, so ending it takes away nothing
      have hnew : armed = true →
          (built.stores.get (built.contextOf boundary)).isActive thread = false := by
        intro harmed
        obtain ⟨answer, hne, heq⟩ | ⟨-, hnew, -⟩ := hcases
        · cases heq
          exact absurd (congrArg Except.ok harmed) hne
        · exact hnew
      have hends : (System.tearDown thread host (built.contextOf boundary) armed ran).2.Calm ∧
          Stores.Keeps thread built.stores
            (System.tearDown thread host (built.contextOf boundary) armed ran).2.stores :=
        hran.tearDown (hkeeps.trans hinside) hnew
      obtain ⟨hcalm, hout⟩ := hends
      rw [stores_setSlot]
      exact ⟨hcalm.setSlot _, hkept.trans hout⟩

/-- Where all is calm, a dispatch loses no context, to whatever depth work dispatches again. -/
theorem Calm.dispatch (depth : Nat) : Careful thread (System.dispatch thread depth) := by
  -- the induction is on the depth: work runs with dispatches of one level less
  induction depth with
  | zero =>
    intro request system answer after _ h
    cases h
  | succ depth ih =>
    intro request system answer after calm h
    exact Calm.dispatchInto ih calm h

namespace Entry

variable {request : Request} {system : System} (entry : Entry thread request system)

/-- The contexts on both sides are there when the unit is resolved. -/
theorem kept_inside : entry.Kept entry.inside := by
  intro harmed
  have hcarried : entry.built.stores.propagateIn thread entry.host entry.context =
      (.ok entry.armed, entry.stores) := entry.carried
  have hkeeps : Stores.Keeps thread entry.built.stores
    (entry.built.stores.propagateIn thread entry.host entry.context).2 := Stores.keeps_propagateIn
  have hcases := Stores.propagateIn_cases entry.built.stores thread entry.host entry.context
  rw [hcarried] at hcases hkeeps
  obtain ⟨answer, hne, heq⟩ | ⟨outside, -, context, heq⟩ := hcases
  -- nothing was carried in, which is not what the entry says
  · have hanswer : .ok entry.armed = answer := congrArg Prod.fst heq
    rw [← hanswer, harmed] at hne
    exact absurd rfl hne
  · refine ⟨hkeeps _ outside, ?_⟩
    have hstores : entry.inside.stores = entry.built.stores.set entry.context
        ((entry.built.stores.get entry.context).setContext thread context) := congrArg Prod.snd heq
    rw [hstores, Stores.get_set_self, Store.isActive_setContext]
    simp

theorem inside_calm (calm : system.Calm) : entry.inside.Calm := by
  have built : (system.target request.target).2.Calm ∧
      Stores.Keeps thread system.stores (system.target request.target).2.stores :=
    calm.target request.target
  rw [entry.supplied] at built
  exact (built.1.setSlot _).withStores _

/-- Where all is calm, the contexts that were carried in are there when the work ends. -/
theorem kept_of_calm {found : Except ResolveError LoadedUnit} {resolved ran : System}
    {unit : LoadedUnit} {handler : Handler} {ended : Ended} {depth : Nat} (calm : system.Calm)
    (answered : entry.inside.resolve entry.boundary request.work = (.done found, resolved))
    (runs : runnable found = .ok (unit, handler))
    (run : (handler (unit.invocation request.item)).run (System.dispatch thread depth) thread
      entry.context resolved = some (ended, ran)) :
    entry.Kept ran := by
  obtain ⟨hcalm, hstores, hunit⟩ := (entry.inside_calm calm).resolve answered
  obtain ⟨rfl, hentry⟩ := runnable_eq_ok runs
  have hhandler := hunit unit rfl runEntry handler hentry
  obtain ⟨-, hkeeps⟩ := (hhandler _).run (Calm.dispatch depth) hcalm run
  intro harmed
  obtain ⟨outside, inside⟩ := entry.kept_inside harmed
  rw [← hstores] at outside inside
  exact ⟨hkeeps _ outside, hkeeps _ inside⟩

end Entry

end System

end Isolation
