import Isolation.Proofs.Loader.Alike
import Isolation.Proofs.System.Dispatch
import Isolation.Proofs.System.Modest

/-!
# Boundaries with and without a store of their own

A boundary shares the store of its parent, or it has one of its own. For a dispatch from the store
of the parent this makes no difference, as long as the work is modest: in the one case the work sets
its outputs directly in the context of the host, in the other it has a copy of this context, and in
the end its outputs are carried back. The answers are the same, and so is the context of the host,
however the work ends and whether or not there is such a context.

## Main definitions

* `System.Sides` — a boundary with the store of the host, and one with a store of its own
* `System.Counterparts` — two boundaries that answer alike

## Main results

* `System.exists_carried`, `System.Twins.tearDown` — carrying the copy in and out
* `System.Twins.invoke` — what happens in between
* `System.makeBoundary_sides` — boundaries that are built with and without a store
* `System.counterparts_of_mirrors` — boundaries side by side
* `System.dispatchInto_sharing` — dispatches into boundaries with and without a store
-/

namespace Isolation

namespace LoadedUnit.Like

variable {unit other : LoadedUnit}

theorem invocation_eq (like : unit.Like other) (item : String) :
    unit.invocation item = other.invocation item := by
  rw [invocation, invocation, like.name, like.bytes]

/-- The frame of a failure shows where the unit came from, but not by which loader. -/
theorem answerOf_eq (like : unit.Like other) (ended : Ended) :
    answerOf unit.info ended = answerOf other.info ended := by
  have hframe : reported.frame unit.info = reported.frame other.info := by
    simp only [reported.frame, info, UnitInfo.location, like.name, like.archive, like.path]
  have hreported : reported unit.info ended = reported other.info ended := by
    rcases ended with ⟨error | value⟩ | crash <;> simp only [reported, hframe]
  rw [answerOf, answerOf, hreported]

end LoadedUnit.Like

namespace System

variable
  {nested nested' : Request → System → Option (Attempt (Except DispatchError Outcome) × System)}
  {thread : ThreadId} {host own : StoreId} {base : Option Context} {loads : Prop}
  {writes : List (String × String)} {work item : String} {boundary boundary' : LoaderRef}
  {system shared separate built built' : System}

/-! ### Carrying the copy in and out -/

/-- The context of the host is copied if there is one, without its outputs. -/
theorem exists_carried {stores : Stores} (different : host ≠ own)
    (unused : stores.context? own thread = none) (kept : stores.context? host thread = base) :
    ∃ carried, stores.propagateIn thread host own = (.ok base.isSome, carried) ∧
      carried.context? own thread =
        base.map (fun context => Context.ofSnapshot context.snapshot) ∧
      carried.context? host thread = base := by
  cases base with
  | none => exact ⟨stores, Stores.propagateIn_of_none kept, unused, kept⟩
  | some context =>
    have hcarried := Stores.propagateIn_eq different kept
    rw [unused] at hcarried
    refine ⟨_, hcarried, ?_, ?_⟩
    · rw [Stores.context?_set_self, Store.current?_setContext, if_pos rfl, Option.map_some]
    · rw [Stores.context?_set_of_ne different, kept]

/-- The outputs of the copy end up in the context of the host, as if they had been set there. -/
theorem Twins.tearDown (twins : Twins loads thread host own base writes shared separate)
    (different : host ≠ own) :
    ∃ after, System.tearDown thread host own base.isSome separate = (.ok (), after) ∧
      after.stores.context? host thread = shared.stores.context? host thread ∧
      (loads → after.bare = shared.bare) := by
  cases base with
  | none =>
    refine ⟨separate, rfl, ?_, fun allowed => (twins.alike allowed).symm⟩
    rw [twins.kept, twins.direct, Option.map_none]
  | some context =>
    have inside : (separate.stores.get own).isActive thread = true := by
      rw [Stores.isActive_eq, twins.copied]
      rfl
    have outside : (separate.stores.get host).isActive thread = true := by
      rw [Stores.isActive_eq, twins.kept]
      rfl
    obtain ⟨outputs, houtputs⟩ := Stores.propagateOut_of_isActive inside outside
    refine ⟨{ separate with stores := (separate.stores.propagateOut thread host own).2 }, ?_, ?_,
      fun allowed => (twins.alike allowed).symm⟩
    · simp only [System.tearDown, Option.isSome_some, if_true, houtputs, Except.map]
    · rw [Stores.context?_propagateOut different, if_neg different, if_pos rfl, twins.kept,
        twins.copied, twins.direct]
      have hmerge : context.output.override (.insertAll ∅ writes) =
          context.output.insertAll writes := by
        rw [← StringMap.ofList_eq_insertAll, StringMap.override_ofList]
      exact congrArg (fun output => some { context with output }) hmerge

/-! ### Dispatches into boundaries that answer alike -/

/-- Loaders that answer alike call the same entry point, or none. -/
theorem invoke_cases (answers : AnswersLike (shared.resolve boundary work).1
      (separate.resolve boundary' work).1) :
    (∃ answer,
      (∀ nested context,
        invoke nested thread boundary context work item shared =
          some (answer, (shared.resolve boundary work).2)) ∧
      ∀ nested context,
        invoke nested thread boundary' context work item separate =
          some (answer, (separate.resolve boundary' work).2)) ∨
    ∃ unit other handler, unit.Like other ∧ shared.calls boundary work = some (unit, handler) ∧
      separate.calls boundary' work = some (other, handler) := by
  rcases hleft : shared.resolve boundary work with ⟨found, resolved⟩
  rcases hright : separate.resolve boundary' work with ⟨found', resolved'⟩
  rw [hleft, hright] at answers
  simp only [invoke, calls, hleft, hright]
  cases answers with
  | crashed crash => exact .inl ⟨_, fun _ _ => rfl, fun _ _ => rfl⟩
  | error error => exact .inl ⟨_, fun _ _ => rfl, fun _ _ => rfl⟩
  | @unit unit other like =>
    simp only [runnable, like.entries, like.name]
    cases other.entries.find? runEntry with
    | none => exact .inl ⟨_, fun _ _ => rfl, fun _ _ => rfl⟩
    | some handler => exact .inr ⟨unit, other, handler, like, rfl, rfl⟩

/-- Modest work that is found on both sides is invoked on both sides, with the same answer. -/
theorem Twins.invoke
    (twins : Twins loads thread host own base [] (shared.resolve boundary work).2
      (separate.resolve boundary' work).2)
    (different : host ≠ own)
    (answers : AnswersLike (shared.resolve boundary work).1 (separate.resolve boundary' work).1)
    (modest : ∀ unit handler, shared.calls boundary work = some (unit, handler) →
      (handler (unit.invocation item)).Modest loads [])
    (nested nested' : Request → System → Option (Attempt (Except DispatchError Outcome) × System)) :
    ∃ answer ran ran' writes,
      System.invoke nested thread boundary host work item shared = some (answer, ran) ∧
      System.invoke nested' thread boundary' own work item separate = some (answer, ran') ∧
      Twins loads thread host own base writes ran ran' := by
  obtain ⟨answer, hidle, hidle'⟩ | ⟨unit, other, handler, like, hcalls, hcalls'⟩ :=
    invoke_cases answers
  · exact ⟨answer, _, _, [], hidle nested host, hidle' nested' own, twins⟩
  · obtain ⟨ended, ran, ran', writes, hrun, hrun', twins'⟩ :=
      (modest unit handler hcalls).run different twins (by simp) nested nested'
    refine ⟨answerOf unit.info ended, ran, ran', writes, ?_, ?_, twins'⟩
    · rw [invoke_of_calls hcalls, hrun, Option.map_some]
    · rw [invoke_of_calls hcalls', ← like.invocation_eq, hrun', Option.map_some, like.answerOf_eq]

/-- One boundary has the store of the host. The other has a store of its own, in which the thread
has no context. The context of the host is the same in both systems. -/
structure Sides (thread : ThreadId) (host : StoreId) (built : System) (boundary : LoaderRef)
    (built' : System) (boundary' : LoaderRef) : Prop where
  shares : built.contextOf boundary = host
  apart : host ≠ built'.contextOf boundary'
  unused : built'.stores.context? (built'.contextOf boundary') thread = none
  same : built.stores.context? host thread = built'.stores.context? host thread

/-- When the work begins, the context has been copied and nothing has been set yet. -/
theorem Sides.exists_twins (sides : Sides thread host built boundary built' boundary')
    (alike : loads → boundary = boundary' ∧ built.bare = built'.bare) (work : String) :
    ∃ base carried,
      built'.stores.propagateIn thread host (built'.contextOf boundary') =
        (.ok base.isSome, carried) ∧
      Twins loads thread host (built'.contextOf boundary') base []
        ((built.entered thread boundary built.stores).resolve boundary work).2
        ((built'.entered thread boundary' carried).resolve boundary' work).2 := by
  obtain ⟨carried, hcarried, hcopied, hkept⟩ := exists_carried sides.apart sides.unused rfl
  refine ⟨_, carried, hcarried, ?_, hcopied, hkept, fun allowed => ?_⟩
  · rw [resolve_stores, ← sides.same]
    exact Option.map_id'.symm
  · obtain ⟨rfl, hbare⟩ := alike allowed
    have hentered : (built.entered thread boundary built.stores).bare =
        (built'.entered thread boundary carried).bare :=
      congrArg (·.setSlot thread (some boundary)) hbare
    exact (resolve_of_bare hentered boundary work).2

/-- Dispatches into boundaries that answer alike. -/
theorem Sides.dispatchInto (sides : Sides thread host built boundary built' boundary')
    (alike : loads → boundary = boundary' ∧ built.bare = built'.bare)
    (answers : AnswersLike (built.resolve boundary work).1 (built'.resolve boundary' work).1)
    (modest : ∀ unit handler, built.calls boundary work = some (unit, handler) →
      (handler (unit.invocation item)).Modest loads [])
    (supply supply' : System → Except BoundaryError LoaderRef × System)
    (supplied : supply shared = (.ok boundary, built))
    (supplied' : supply' separate = (.ok boundary', built'))
    (nested nested' : Request → System → Option (Attempt (Except DispatchError Outcome) × System)) :
    ∃ answer after after',
      System.dispatchInto nested thread host supply work item shared = some (answer, after) ∧
      System.dispatchInto nested' thread host supply' work item separate = some (answer, after') ∧
      after.stores.context? host thread = after'.stores.context? host thread ∧
      (loads → after.bare = after'.bare) := by
  have hdirect : built.stores.propagateIn thread host (built.contextOf boundary) =
      (.ok false, built.stores) := by
    rw [sides.shares, Stores.propagateIn_self]
  -- the context is copied, the work does the same on both sides, and its outputs are carried back
  obtain ⟨base, carried, hcarried, twins⟩ := sides.exists_twins alike work
  obtain ⟨answer, ran, ran', writes, hrun, hrun', twins'⟩ :=
    twins.invoke sides.apart answers modest nested nested'
  obtain ⟨down, hdown, hcontext, hbare⟩ := twins'.tearDown sides.apart
  refine ⟨answer, ran.setSlot thread (built.slots.get? thread),
    down.setSlot thread (built'.slots.get? thread), ?_, ?_, ?_, fun allowed => ?_⟩
  · rw [dispatchInto_of_carried supplied hdirect, sides.shares, hrun]
    simp only [Option.map_some, System.tearDown, Bool.false_eq_true, if_false, settle_ok]
  · rw [dispatchInto_of_carried supplied' hcarried, hrun']
    simp only [Option.map_some, hdown, settle_ok]
  · rw [stores_setSlot, stores_setSlot, hcontext]
  · have hslots : built.bare.slots = built'.bare.slots := by rw [(alike allowed).2]
    change built.slots = built'.slots at hslots
    rw [setSlot_bare, setSlot_bare, hbare allowed, hslots]

end System

/-! ### Boundaries that are built with and without a store -/

/-- The policy of a boundary that shares the store of its parent, or does not. -/
def Policy.sharing (policy : Policy) (shares : Bool) : Policy :=
  { policy with sharesContext := shares }

namespace System

variable {thread : ThreadId} {host : StoreId} {policy : Policy} {parent : LoaderRef}
  {registry : Registry}

theorem effectivePolicy_sharing (files : FileSystem) (policy : Policy) (shares : Bool) :
    effectivePolicy files (policy.sharing shares) =
      (effectivePolicy files policy).map (·.sharing shares) := by
  have hdiscover : (policy.sharing shares).discover = policy.discover := rfl
  rw [effectivePolicy, effectivePolicy, hdiscover]
  cases policy.discover with
  | false => rfl
  | true =>
    have hscan : scan files (policy.sharing shares).archives (policy.sharing shares).ignores
        .packages = scan files policy.archives policy.ignores .packages := rfl
    rw [if_pos rfl, if_pos rfl, hscan]
    cases scan files policy.archives policy.ignores .packages <;> rfl

/-- A system with one more boundary, and perhaps one more store. -/
def withBoundary (system : System) (stores : Stores) (boundary : Boundary) : System :=
  { system with stores, loaders := (system.loaders.takeId.2.add (.boundary boundary)).2 }

theorem contextOf_withBoundary (system : System) (stores : Stores) (boundary : Boundary) :
    (system.withBoundary stores boundary).contextOf system.loaders.list.length =
      boundary.context := by
  have h : (system.withBoundary stores boundary).loaders.get? system.loaders.list.length =
      some (.boundary boundary) := by
    refine (List.getElem?_append_right (Nat.le_refl _)).trans ?_
    have hlength : system.loaders.takeId.2.list.length = system.loaders.list.length := rfl
    rw [hlength, Nat.sub_self]
    rfl
  rw [contextOf, h]
  rfl

theorem bare_withBoundary (system : System) (stores stores' : Stores)
    {boundary boundary' : Boundary} (same : boundary.bare = boundary'.bare) :
    (system.withBoundary stores boundary).bare = (system.withBoundary stores' boundary').bare := by
  simp only [bare, withBoundary, Loaders.bare, Loaders.add, List.map_append, List.map_cons,
    List.map_nil, Loader.bare, same]

/-- Whether a store is shared makes no difference to whether a boundary can be built. -/
theorem makeBoundary_sharing (system : System) (policy : Policy) (parent : LoaderRef)
    (registry : Registry) :
    (∃ error, ∀ shares, system.makeBoundary (policy.sharing shares) parent registry =
      (.error error, { system with loaders := system.loaders.takeId.2 })) ∨
    ∃ (effective : Policy) (isolated : List OpenArchive),
      system.makeBoundary (policy.sharing true) parent registry =
        (.ok system.loaders.list.length, system.withBoundary system.stores
          (system.boundaryBelow (effective.sharing true) parent isolated registry
            (((system.loaders.get? parent).map Loader.context).getD processStore))) ∧
      system.makeBoundary (policy.sharing false) parent registry =
        (.ok system.loaders.list.length, system.withBoundary system.stores.make.2
          (system.boundaryBelow (effective.sharing false) parent isolated registry
            system.stores.list.length)) := by
  have harchives (effective : Policy) (shares : Bool) :
      (effective.sharing shares).archives = effective.archives := rfl
  simp only [makeBoundary, effectivePolicy_sharing]
  cases effectivePolicy system.files policy with
  | error error => exact .inl ⟨_, fun _ => rfl⟩
  | ok effective =>
    simp only [Except.map, harchives]
    cases openAll system.files effective.archives with
    | error error => exact .inl ⟨_, fun _ => rfl⟩
    | ok isolated => exact .inr ⟨effective, isolated, rfl, rfl⟩

/-- Below a loader that has the store of the host, a boundary can be built with this store and with
one of its own, or not at all. -/
theorem makeBoundary_sides {system : System} (thread : ThreadId) (policy : Policy)
    (registry : Registry) (owner : (system.loaders.get? parent).map Loader.context = some host)
    (made : host < system.stores.list.length) :
    (∃ error after, ∀ shares,
      system.makeBoundary (policy.sharing shares) parent registry = (.error error, after)) ∨
    ∃ boundary built built',
      system.makeBoundary (policy.sharing true) parent registry = (.ok boundary, built) ∧
      system.makeBoundary (policy.sharing false) parent registry = (.ok boundary, built') ∧
      Sides thread host built boundary built' boundary ∧ built.bare = built'.bare := by
  obtain ⟨error, hfailed⟩ | ⟨effective, isolated, hshared, hseparate⟩ :=
    system.makeBoundary_sharing policy parent registry
  · exact .inl ⟨error, _, hfailed⟩
  · refine .inr ⟨_, _, _, hshared, hseparate, ⟨?_, ?_, ?_, ?_⟩, bare_withBoundary _ _ _ rfl⟩
    · rw [contextOf_withBoundary, owner]
      rfl
    · rw [contextOf_withBoundary]
      exact Nat.ne_of_lt made
    -- a store that is new has no contexts
    · rw [contextOf_withBoundary]
      have hnew : system.stores.get system.stores.list.length = {} := by
        rw [Stores.get, List.getD_eq_getElem?_getD, List.getElem?_eq_none (Nat.le_refl _)]
        rfl
      exact congrArg (·.current? thread) (Stores.get_make.trans hnew)
    · exact (congrArg (·.current? thread) Stores.get_make).symm

/-! ### Counterparts -/

/-- Two boundaries that answer alike. It may be one boundary, in systems that differ in their stores
only. Or they are two boundaries on the same archives, in one system or in two, where nothing was
closed and no files have changed; as they have numbers of their own, work may not ask for these. -/
inductive Counterparts : Prop → System → LoaderRef → System → LoaderRef → Prop
  | same {loads built built' boundary} (alike : built.bare = built'.bare) :
      Counterparts loads built boundary built' boundary
  | chains {built built' boundary boundary' chains chains'} (files : built'.files = built.files)
      (layered : built.loaders.Layered) (layered' : built'.loaders.Layered)
      (mirrors : Loaders.Mirrors built.files built.loaders chains)
      (mirrors' : Loaders.Mirrors built.files built'.loaders chains')
      (here : boundary < built.loaders.list.length)
      (here' : boundary' < built'.loaders.list.length)
      (like : (chains boundary).Like (chains' boundary')) :
      Counterparts False built boundary built' boundary'

theorem exists_resolve_of_mirrors {system : System} {boundary : LoaderRef}
    {chains : LoaderRef → Chain} (layered : system.loaders.Layered)
    (mirrors : Loaders.Mirrors system.files system.loaders chains)
    (here : boundary < system.loaders.list.length) (work : String) :
    ∃ serial, (system.resolve boundary work).1 =
      .done (((chains boundary).lookup system.files work).map (· serial)) := by
  obtain ⟨answer, after, hresolve, answers⟩ := layered.answers system.files work here
  obtain ⟨⟨serial, found⟩, -⟩ := mirrors.answers layered answers
  refine ⟨serial, ?_⟩
  rw [resolve, hresolve, found]

section

variable {loads : Prop} {built built' : System} {boundary boundary' : LoaderRef}

theorem Counterparts.answers (counterparts : Counterparts loads built boundary built' boundary')
    (work : String) :
    AnswersLike (built.resolve boundary work).1 (built'.resolve boundary' work).1 := by
  cases counterparts with
  | same alike =>
    rw [(resolve_of_bare alike boundary work).1]
    exact .refl _
  | chains files layered layered' mirrors mirrors' here here' like =>
    rw [← files] at mirrors'
    obtain ⟨serial, h⟩ := exists_resolve_of_mirrors layered mirrors here work
    obtain ⟨serial', h'⟩ := exists_resolve_of_mirrors layered' mirrors' here' work
    rw [h, h', files]
    exact like.lookup serial serial'

/-- Two boundaries of one parent answer alike if only the sharing of stores tells them apart. -/
theorem counterparts_of_mirrors {system : System} {chains : LoaderRef → Chain}
    {first second : Boundary} (layered : system.loaders.Layered)
    (mirrors : Loaders.Mirrors system.files system.loaders chains)
    (here : system.loaders.get? boundary = some (.boundary first))
    (here' : system.loaders.get? boundary' = some (.boundary second))
    (policies : first.policy.bare = second.policy.bare)
    (registries : first.registry = second.registry) (parents : first.parent = second.parent) :
    Counterparts False system boundary system boundary' := by
  obtain ⟨sets, hsets⟩ := (mirrors here).exists_sets
  obtain ⟨sets', hsets'⟩ := (mirrors here').exists_sets
  refine .chains rfl layered layered mirrors mirrors (Loaders.get?_eq_some_lt here)
    (Loaders.get?_eq_some_lt here') ?_
  rw [((mirrors here).boundary_inv hsets).1, ((mirrors here').boundary_inv hsets').1, registries,
    parents]
  exact .boundary policies (.refl _)

theorem Counterparts.alike (counterparts : Counterparts loads built boundary built' boundary')
    (allowed : loads) : boundary = boundary' ∧ built.bare = built'.bare := by
  cases counterparts with
  | same alike => exact ⟨rfl, alike⟩
  | chains => exact allowed.elim

end

/-- Whether a boundary shares the store of the host, or has one of its own, makes no difference to a
dispatch of modest work, however the work ends and whether or not the host has a context: the
answers are the same, and so is the context of the host afterwards. This holds of boundaries that
are built below a loader with the store of the host, by policies that differ in nothing else; it
also holds of any two boundaries that answer alike. -/
theorem dispatchInto_sharing (thread : ThreadId) (host : StoreId) (work item : String)
    (nested nested' : Request → System → Option (Attempt (Except DispatchError Outcome) × System)) :
    (∀ (system : System) (policy : Policy) (parent : LoaderRef) (registry : Registry),
      (system.loaders.get? parent).map Loader.context = some host →
      host < system.stores.list.length →
      (∀ boundary built,
        system.makeBoundary (policy.sharing true) parent registry = (.ok boundary, built) →
        ∀ unit handler, built.calls boundary work = some (unit, handler) →
          (handler (unit.invocation item)).Modest True []) →
      ∃ answer after after',
        dispatchInto nested thread host (·.makeBoundary (policy.sharing true) parent registry) work
          item system = some (answer, after) ∧
        dispatchInto nested' thread host (·.makeBoundary (policy.sharing false) parent registry)
          work item system = some (answer, after') ∧
        after.stores.context? host thread = after'.stores.context? host thread ∧
        after.bare = after'.bare) ∧
    ∀ (loads : Prop) (built built' : System) (boundary boundary' : LoaderRef)
      (supply supply' : System → Except BoundaryError LoaderRef × System) (system system' : System),
      Counterparts loads built boundary built' boundary' →
      Sides thread host built boundary built' boundary' →
      supply system = (.ok boundary, built) → supply' system' = (.ok boundary', built') →
      (∀ unit handler, built.calls boundary work = some (unit, handler) →
        (handler (unit.invocation item)).Modest loads []) →
      ∃ answer after after',
        dispatchInto nested thread host supply work item system = some (answer, after) ∧
        dispatchInto nested' thread host supply' work item system' = some (answer, after') ∧
        after.stores.context? host thread = after'.stores.context? host thread ∧
        (loads → after.bare = after'.bare) := by
  constructor
  · intro system policy parent registry owner made modest
    obtain ⟨error, after, hfailed⟩ |
        ⟨boundary, built, built', hbuilt, hbuilt', sides, hbare⟩ :=
      makeBoundary_sides thread policy registry owner made
    · refine ⟨.done (.error (.boundary error)), after, after, ?_, ?_, rfl, rfl⟩
      · rw [dispatchInto, hfailed]
      · rw [dispatchInto, hfailed]
    · have counterparts : Counterparts True built boundary built' boundary := .same hbare
      obtain ⟨answer, after, after', hdispatch, hdispatch', hcontext, hafter⟩ :=
        sides.dispatchInto counterparts.alike (counterparts.answers work)
          (modest boundary built hbuilt) (·.makeBoundary (policy.sharing true) parent registry)
          (·.makeBoundary (policy.sharing false) parent registry) hbuilt hbuilt' nested nested'
      exact ⟨answer, after, after', hdispatch, hdispatch', hcontext, hafter trivial⟩
  · intro loads built built' boundary boundary' supply supply' system system' counterparts sides
      supplied supplied' modest
    exact sides.dispatchInto counterparts.alike (counterparts.answers work) modest supply supply'
      supplied supplied' nested nested'

/-! ### Two boundaries side by side -/

/-- Work that sets an output, reads it back, and crashes. -/
def frank : Work := .put "k" "1" fun _ => .output "k" fun _ => .crash .silent

theorem modest_frank (loads : Prop) : frank.Modest loads [] :=
  .put fun _ => .output List.mem_cons_self fun _ => .crash .silent

/-- A registry with this work. -/
def frankRegistry : Registry := Registry.empty.registerWork "A" fun _ => frank

/-- A host with this registry, a boundary below it that shares its store, and another one that does
not. -/
def sideBySide : List Operation :=
  [.host [.directory "lib"] frankRegistry processStore,
    .boundary (Policy.sharing {} true) 0 .empty, .boundary (Policy.sharing {} false) 0 .empty]

/-- A directory with one unit, and a context of the process. -/
def sharingStart : System :=
  { files := oneUnit, stores := (({} : Stores).change processStore (·.start 0 {})).2 }

/-- These loaders on that directory. -/
def sharingStage : System := sharingStart.run sideBySide

/-- One of the two boundaries. -/
def sideBoundary (shares : Bool) (id : LoaderId) (context : StoreId) : Boundary :=
  { id, policy := Policy.sharing {} shares, parent := 0, parentId := ⟨1⟩
    searchPath := [.directory "lib"], sets := some { isolated := [] }, registry := .empty, context }

/-- The unit that the host makes. -/
def frankUnit : LoadedUnit :=
  { serial := 0, name := "A", loader := ⟨1⟩, archive := "lib", path := "A.unit", bytes := [1]
    entries := frankRegistry.link "A" }

theorem calls_sharingStage : sharingStage.calls 1 "A" = some (frankUnit, fun _ => frank) := by
  rw [calls, System.resolve]
  with_unfolding_all rfl

/-- The two boundaries answer alike, though they have numbers of their own. -/
theorem counterparts_sharingStage : Counterparts False sharingStage 1 sharingStage 2 := by
  have quiet : ∀ operation ∈ sideBySide, operation.quiet = true := by decide
  have empty : sharingStart.loaders.list = [] := rfl
  obtain ⟨-, -, chains, -, mirrors⟩ := run_mirrors quiet (Loaders.layered_nil empty)
    (mirrors_nil empty fun _ => .host ⟨0⟩ [] .empty)
  have here : sharingStage.loaders.get? 1 =
      some (.boundary (sideBoundary true ⟨2⟩ processStore)) := by with_unfolding_all rfl
  have here' : sharingStage.loaders.get? 2 =
      some (.boundary (sideBoundary false ⟨3⟩ 1)) := by with_unfolding_all rfl
  exact counterparts_of_mirrors (run_layered _ (Loaders.layered_nil empty)) mirrors here here' rfl
    rfl rfl

theorem sides_sharingStage : Sides 0 processStore sharingStage 1 sharingStage 2 where
  shares := by decide +kernel
  apart := by decide +kernel
  unused := by decide +kernel
  same := rfl

/-- What the host has after that work. -/
def frankContext : Context := { input := ∅, output := .ofList [("k", "1")], env := ∅ }

/-- A third boundary, built with the store of the host or with one of its own, and the two
boundaries that are there: either way the host has the output, in spite of the crash. -/
theorem dispatchInto_sharing_frank :
    (∃ answer after after',
      dispatchInto (fun _ _ => none) 0 processStore
          (·.makeBoundary (Policy.sharing {} true) 0 .empty) "A" "x" sharingStage =
        some (answer, after) ∧
      dispatchInto (fun _ _ => none) 0 processStore
          (·.makeBoundary (Policy.sharing {} false) 0 .empty) "A" "x" sharingStage =
        some (answer, after') ∧
      after.stores.context? processStore 0 = some frankContext ∧
      after'.stores.context? processStore 0 = some frankContext) ∧
    ∃ answer after after',
      dispatchInto (fun _ _ => none) 0 processStore (fun system => (.ok 1, system)) "A" "x"
        sharingStage = some (answer, after) ∧
      dispatchInto (fun _ _ => none) 0 processStore (fun system => (.ok 2, system)) "A" "x"
        sharingStage = some (answer, after') ∧
      after.stores.context? processStore 0 = some frankContext ∧
      after'.stores.context? processStore 0 = some frankContext := by
  obtain ⟨building, standing⟩ :=
    dispatchInto_sharing 0 processStore "A" "x" (fun _ _ => none) (fun _ _ => none)
  constructor
  · have modest (boundary : LoaderRef) (built : System)
        (hbuilt : sharingStage.makeBoundary (Policy.sharing {} true) 0 .empty =
          (.ok boundary, built))
        (unit : LoadedUnit) (handler : Handler)
        (hcalls : built.calls boundary "A" = some (unit, handler)) :
        (handler (unit.invocation "x")).Modest True [] := by
      have hfrank : (sharingStage.makeBoundary (Policy.sharing {} true) 0 .empty).2.calls 3 "A" =
          some (frankUnit, fun _ => frank) := by
        rw [calls, System.resolve]
        with_unfolding_all rfl
      have href : (sharingStage.makeBoundary (Policy.sharing {} true) 0 .empty).1 = .ok 3 := by
        with_unfolding_all rfl
      rw [hbuilt] at hfrank href
      cases href
      rw [hfrank] at hcalls
      cases hcalls
      exact modest_frank True
    obtain ⟨answer, after, after', h, h', hcontext, -⟩ :=
      building sharingStage {} 0 .empty (by decide +kernel) (by decide +kernel) modest
    have hafter : (dispatchInto (fun _ _ => none) 0 processStore
        (·.makeBoundary (Policy.sharing {} true) 0 .empty) "A" "x" sharingStage).map
          (·.2.stores.context? processStore 0) = some (some frankContext) := by decide +kernel
    rw [h] at hafter
    have hleft : after.stores.context? processStore 0 = some frankContext := Option.some.inj hafter
    exact ⟨answer, after, after', h, h', hleft, hcontext.symm.trans hleft⟩
  · have modest (unit : LoadedUnit) (handler : Handler)
        (hcalls : sharingStage.calls 1 "A" = some (unit, handler)) :
        (handler (unit.invocation "x")).Modest False [] := by
      rw [calls_sharingStage] at hcalls
      cases hcalls
      exact modest_frank False
    obtain ⟨answer, after, after', h, h', hcontext, -⟩ :=
      standing False sharingStage sharingStage 1 2 _ _ sharingStage sharingStage
        counterparts_sharingStage sides_sharingStage rfl rfl modest
    have hafter : (dispatchInto (fun _ _ => none) 0 processStore (fun system => (.ok 1, system)) "A"
        "x" sharingStage).map (·.2.stores.context? processStore 0) = some (some frankContext) := by
      decide +kernel
    rw [h] at hafter
    have hleft : after.stores.context? processStore 0 = some frankContext := Option.some.inj hafter
    exact ⟨answer, after, after', h, h', hleft, hcontext.symm.trans hleft⟩

end System

end Isolation
