import Isolation.Proofs.Context.Carry
import Isolation.Proofs.Loader.Bare
import Isolation.Proofs.System.Steps
import Isolation.Proofs.System.Supply

/-!
# Work in a shared or a copied context

Work is modest if it uses its context only to ask whether it is there, to read inputs and the
environment, to set outputs, and to read such outputs as it has set before. Modest work cannot tell
the context of the host from a copy of it that has begun without outputs. Run in one and in the
other, it does and answers the same, and the outputs that it sets in the copy are those that it sets
in the context of the host.

## Main definitions

* `Work.Modest` — modest work
* `System.bare` — a system of which the stores are forgotten
* `System.Twins` — a system with a shared context, and one with a copied context

## Main results

* `System.Twins.put` — outputs are set in the shared context and in the copy
* `Work.Modest.run` — modest work in both systems
-/

namespace Isolation

/-- Work that uses its context in no other way than to ask whether it is there, to read inputs and
the environment, to set outputs, and to read outputs with keys that it has set before. So it neither
starts nor ends contexts, nor does it dispatch other work, which would find and change the context
of the host by itself. It asks and changes loaders only if that is allowed. -/
inductive Work.Modest (loads : Prop) : List String → Work → Prop
  | finish {keys} (returned) : Modest loads keys (.finish returned)
  | crash {keys} (c) : Modest loads keys (.crash c)
  | isActive {keys next} (h : ∀ active, Modest loads keys (next active)) :
      Modest loads keys (.isActive next)
  | input {keys key next} (h : ∀ found, Modest loads keys (next found)) :
      Modest loads keys (.input key next)
  | env {keys key next} (h : ∀ found, Modest loads keys (next found)) :
      Modest loads keys (.env key next)
  | output {keys key next} (written : key ∈ keys) (h : ∀ found, Modest loads keys (next found)) :
      Modest loads keys (.output key next)
  | put {keys key value next} (h : ∀ answer, Modest loads (key :: keys) (next answer)) :
      Modest loads keys (.put key value next)
  | currentLoader {keys next} (allowed : loads) (h : ∀ id, Modest loads keys (next id)) :
      Modest loads keys (.currentLoader next)
  | install {keys loader next} (allowed : loads) (h : Modest loads keys next) :
      Modest loads keys (.install loader next)
  | load {keys symbol next} (allowed : loads) (h : ∀ answer, Modest loads keys (next answer)) :
      Modest loads keys (.load symbol next)
  | close {keys loader next} (allowed : loads) (h : Modest loads keys next) :
      Modest loads keys (.close loader next)
  | note {keys n next} (h : Modest loads keys next) : Modest loads keys (.note n next)

namespace Stores

variable {stores : Stores} {id : StoreId} {thread : ThreadId}

/-- An output can be set if there is a context. -/
theorem fst_change_put (key value : String) :
    (stores.change id (·.put thread key value)).1 =
      if (stores.context? id thread).isSome then .ok () else .error .notActive := by
  cases hcontext : stores.context? id thread with
  | none =>
    have hnone : (stores.get id).current? thread = none := hcontext
    simp [change, Store.put, Store.changeOutput, hnone]
  | some context =>
    have hsome : (stores.get id).current? thread = some context := hcontext
    simp [change, Store.put, Store.changeOutput, hsome]

theorem context?_change_put (key value : String) :
    (stores.change id (·.put thread key value)).2.context? id thread =
      (stores.context? id thread).map (·.setting [(key, value)]) :=
  context?_changeOutput_self _

end Stores

namespace System

/-! ### Systems without their stores -/

/-- A system of which the stores are forgotten. -/
def bare (system : System) : System :=
  { system with stores := {}, loaders := system.loaders.bare }

variable {system other : System} {thread : ThreadId}

theorem setSlot_bare (system : System) (slot : Option LoaderRef) :
    (system.setSlot thread slot).bare = system.bare.setSlot thread slot := by
  cases slot <;> rfl

theorem currentId?_bare (system : System) :
    system.bare.currentId? thread = system.currentId? thread := by
  have hid (loader : Loader) : loader.bare.id = loader.id := by cases loader <;> rfl
  rw [currentId?, currentId?, show system.bare.slots = system.slots from rfl]
  cases system.slots.get? thread with
  | none => rfl
  | some ref =>
    rw [Option.bind_some, Option.bind_some, show system.bare.loaders = system.loaders.bare from rfl,
      Loaders.get?_bare, Option.map_map]
    congr 1
    funext loader
    exact hid loader

theorem resolve_bare (system : System) (ref : LoaderRef) (symbol : String) :
    system.bare.resolve ref symbol =
      ((system.resolve ref symbol).1, (system.resolve ref symbol).2.bare) := by
  simp only [resolve, bare, Loaders.resolve_bare]

/-- Systems that differ in their stores only resolve names alike. -/
theorem resolve_of_bare (alike : system.bare = other.bare) (ref : LoaderRef) (symbol : String) :
    (system.resolve ref symbol).1 = (other.resolve ref symbol).1 ∧
      (system.resolve ref symbol).2.bare = (other.resolve ref symbol).2.bare := by
  have h := system.resolve_bare ref symbol
  rw [alike, other.resolve_bare] at h
  exact ⟨(congrArg Prod.fst h).symm, (congrArg Prod.snd h).symm⟩

/-! ### A shared context and a copied one -/

/-- In one system the context of the host has got some outputs. In the other it has not, but a copy
of it, in a store of its own, has got them. If loaders count, the systems are otherwise alike. -/
structure Twins (loads : Prop) (thread : ThreadId) (host own : StoreId) (base : Option Context)
    (writes : List (String × String)) (shared separate : System) : Prop where
  direct : shared.stores.context? host thread = base.map (·.setting writes)
  copied : separate.stores.context? own thread =
    base.map fun context => (Context.ofSnapshot context.snapshot).setting writes
  kept : separate.stores.context? host thread = base
  alike : loads → shared.bare = separate.bare

namespace Twins

variable {loads : Prop} {host own : StoreId} {base : Option Context}
  {writes : List (String × String)} {shared separate shared' separate' : System}

theorem isActive_eq (twins : Twins loads thread host own base writes shared separate) :
    (shared.stores.get host).isActive thread = (separate.stores.get own).isActive thread := by
  rw [Stores.isActive_eq, Stores.isActive_eq, twins.direct, twins.copied, Option.isSome_map,
    Option.isSome_map]

/-- What is read in both contexts is the same, if it does not depend on the outputs that the host
had before. -/
theorem bind_current?_eq (twins : Twins loads thread host own base writes shared separate)
    {read : Context → Option String}
    (same : ∀ context : Context, read (context.setting writes) =
      read ((Context.ofSnapshot context.snapshot).setting writes)) :
    ((shared.stores.get host).current? thread).bind read =
      ((separate.stores.get own).current? thread).bind read := by
  have hdirect : (shared.stores.get host).current? thread = _ := twins.direct
  have hcopied : (separate.stores.get own).current? thread = _ := twins.copied
  rw [hdirect, hcopied, Option.bind_map, Option.bind_map]
  congr 1
  funext context
  exact same context

theorem input?_eq (twins : Twins loads thread host own base writes shared separate) (key : String) :
    (shared.stores.get host).input? thread key = (separate.stores.get own).input? thread key :=
  twins.bind_current?_eq fun _ => rfl

theorem env?_eq (twins : Twins loads thread host own base writes shared separate) (key : String) :
    (shared.stores.get host).env? thread key = (separate.stores.get own).env? thread key :=
  twins.bind_current?_eq fun _ => rfl

/-- An output that has been set is the same on both sides, whatever the host had before. -/
theorem output?_eq (twins : Twins loads thread host own base writes shared separate) {key : String}
    (written : key ∈ writes.map Prod.fst) :
    (shared.stores.get host).output? thread key =
      (separate.stores.get own).output? thread key := by
  have hkey : (Fields.find? key writes.reverse).isSome = true := by
    rw [Fields.isSome_find?, List.map_reverse, List.mem_reverse]
    exact written
  obtain ⟨value, hvalue⟩ := Option.isSome_iff_exists.1 hkey
  apply twins.bind_current?_eq
  intro context
  simp only [Context.setting, StringMap.find?_insertAll, hvalue, Option.some_or]

theorem put (different : host ≠ own)
    (twins : Twins loads thread host own base writes shared separate) (key value : String) :
    (shared.stores.change host (·.put thread key value)).1 =
        (separate.stores.change own (·.put thread key value)).1 ∧
      Twins loads thread host own base (writes ++ [(key, value)])
        { shared with stores := (shared.stores.change host (·.put thread key value)).2 }
        { separate with stores := (separate.stores.change own (·.put thread key value)).2 } where
  left := by
    rw [Stores.fst_change_put, Stores.fst_change_put, twins.direct, twins.copied, Option.isSome_map,
      Option.isSome_map]
  right := by
    refine ⟨?_, ?_, ?_, twins.alike⟩
    · simp only [Stores.context?_change_put, twins.direct, Option.map_map, Context.setting_append]
      rfl
    · simp only [Stores.context?_change_put, twins.copied, Option.map_map, Context.setting_append]
      rfl
    · rw [Stores.context?, Stores.get_change_of_ne different]
      exact twins.kept

/-- What does not touch the stores keeps the twins. -/
theorem of_stores_eq (twins : Twins loads thread host own base writes shared separate)
    (left : shared'.stores = shared.stores) (right : separate'.stores = separate.stores)
    (alike : loads → shared'.bare = separate'.bare) :
    Twins loads thread host own base writes shared' separate' where
  direct := by rw [left, twins.direct]
  copied := by rw [right, twins.copied]
  kept := by rw [right, twins.kept]
  alike := alike

theorem loaderNamed?_eq (twins : Twins loads thread host own base writes shared separate)
    (allowed : loads) (name : String) : shared.loaderNamed? name = separate.loaderNamed? name :=
  congrArg (fun system => system.loaders.names.find? name) (twins.alike allowed)

theorem setSlot (twins : Twins loads thread host own base writes shared separate)
    (slot : Option LoaderRef) :
    Twins loads thread host own base writes (shared.setSlot thread slot)
      (separate.setSlot thread slot) :=
  twins.of_stores_eq (stores_setSlot ..) (stores_setSlot ..) fun allowed => by
    rw [setSlot_bare, setSlot_bare, twins.alike allowed]

theorem closeNamed (twins : Twins loads thread host own base writes shared separate)
    (name : String) :
    Twins loads thread host own base writes
      { shared with loaders := shared.loaders.closeNamed name }
      { separate with loaders := separate.loaders.closeNamed name } :=
  twins.of_stores_eq rfl rfl fun allowed => by
    have h := congrArg (fun system : System =>
      { system with loaders := system.loaders.closeNamed name }) (twins.alike allowed)
    simpa only [bare, Loaders.closeNamed_bare] using h

theorem addNote (twins : Twins loads thread host own base writes shared separate) (note : Note) :
    Twins loads thread host own base writes (shared.addNote note) (separate.addNote note) :=
  twins.of_stores_eq rfl rfl fun allowed => congrArg (·.addNote note) (twins.alike allowed)

/-- The loader in the slot answers the same on both sides. -/
theorem exists_load (twins : Twins loads thread host own base writes shared separate)
    (allowed : loads) (symbol : String)
    (nested nested' : Request → System → Option (Attempt (Except DispatchError Outcome) × System)) :
    ∃ answer shared' separate', Twins loads thread host own base writes shared' separate' ∧
      ∀ next, (Work.load symbol next).step? nested thread host shared =
          some (next answer, shared') ∧
        (Work.load symbol next).step? nested' thread own separate =
          some (next answer, separate') := by
  have hslots : shared.bare.slots = separate.bare.slots := by rw [twins.alike allowed]
  change shared.slots = separate.slots at hslots
  simp only [Work.step?, hslots]
  cases separate.slots.get? thread with
  | none => exact ⟨none, shared, separate, twins, fun next => ⟨rfl, rfl⟩⟩
  | some ref =>
    obtain ⟨hanswer, hafter⟩ := resolve_of_bare (twins.alike allowed) ref symbol
    have htwins : Twins loads thread host own base writes (shared.resolve ref symbol).2
        (separate.resolve ref symbol).2 := twins.of_stores_eq rfl rfl fun _ => hafter
    rcases hleft : shared.resolve ref symbol with ⟨answer, shared'⟩
    rcases hright : separate.resolve ref symbol with ⟨answer', separate'⟩
    rw [hleft, hright] at hanswer htwins
    obtain rfl : answer = answer' := hanswer
    simp only [hleft, hright]
    cases answer with
    | done answer => exact ⟨_, shared', separate', htwins, fun next => ⟨rfl, rfl⟩⟩
    | crashed crash => exact ⟨_, shared', separate', htwins, fun next => ⟨rfl, rfl⟩⟩

end Twins

end System

/-! ### Modest work -/

/-- Modest work does the same in both systems, and comes to an end. -/
theorem Work.Modest.run {loads : Prop} {keys : List String} {work : Work}
    (modest : work.Modest loads keys) {thread : ThreadId} {host own : StoreId}
    (different : host ≠ own) {base : Option Context} {writes : List (String × String)}
    {shared separate : System}
    (twins : System.Twins loads thread host own base writes shared separate)
    (written : ∀ key ∈ keys, key ∈ writes.map Prod.fst)
    (nested nested' : Request → System → Option (Attempt (Except DispatchError Outcome) × System)) :
    ∃ ended shared' separate' writes',
      work.run nested thread host shared = some (ended, shared') ∧
      work.run nested' thread own separate = some (ended, separate') ∧
      System.Twins loads thread host own base writes' shared' separate' := by
  -- the induction is on the work: whatever it is answered, it is answered on both sides
  induction modest generalizing writes shared separate with
  | finish returned => exact ⟨_, _, _, writes, rfl, rfl, twins⟩
  | crash c => exact ⟨_, _, _, writes, rfl, rfl, twins⟩
  | isActive _ ih =>
    rw [Work.run, Work.run, twins.isActive_eq]
    exact ih _ twins written
  | input _ ih =>
    rw [Work.run, Work.run, twins.input?_eq]
    exact ih _ twins written
  | env _ ih =>
    rw [Work.run, Work.run, twins.env?_eq]
    exact ih _ twins written
  | output hkey _ ih =>
    rw [Work.run, Work.run, twins.output?_eq (written _ hkey)]
    exact ih _ twins written
  | @put keys key value next _ ih =>
    obtain ⟨hanswer, twins'⟩ := twins.put different key value
    have written' : ∀ other ∈ key :: keys, other ∈ (writes ++ [(key, value)]).map Prod.fst := by
      intro other hother
      rw [List.map_append, List.mem_append]
      obtain rfl | hold := List.mem_cons.1 hother
      · exact .inr (by simp)
      · exact .inl (written other hold)
    have hrun := ih (separate.stores.change own (·.put thread key value)).1 twins' written'
    rw [Work.run, Work.run]
    simp only [hanswer]
    exact hrun
  | currentLoader allowed _ ih =>
    rw [Work.run, Work.run, ← System.currentId?_bare, twins.alike allowed, System.currentId?_bare]
    exact ih _ twins written
  | @install keys loader next allowed _ ih =>
    have hnamed : shared.loaderNamed? = separate.loaderNamed? :=
      funext (twins.loaderNamed?_eq allowed)
    rw [Work.run, Work.run, hnamed]
    exact ih (twins.setSlot _) written
  | load allowed _ ih =>
    obtain ⟨answer, shared', separate', twins', hsteps⟩ :=
      twins.exists_load allowed _ nested nested'
    obtain ⟨hleft, hright⟩ := hsteps _
    rw [Work.run_eq_of_step hleft, Work.run_eq_of_step hright]
    exact ih answer twins' written
  | close allowed _ ih => exact ih (twins.closeNamed _) written
  | note _ ih => exact ih (twins.addNote _) written

end Isolation
