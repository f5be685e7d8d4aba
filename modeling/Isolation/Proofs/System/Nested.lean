import Isolation.Proofs.System.Crossing
import Isolation.Proofs.System.Depth

/-!
# Dispatches within dispatches

Work that runs for a host dispatches other work for the same host, which does so in turn. A boundary
that is in use on the thread, with a store of its own, refuses to be entered again. All other nested
dispatches come to what they would come to on their own.

If no work starts or ends contexts itself, then no nested dispatch touches the contexts of those
around it: the outputs of a nested dispatch are with the host as soon as it is over, those of the work
around it follow when that work is over in turn. So the latter prevail, whichever were set later.

## Main definitions

* `Stores.Steady` — nothing has changed but outputs of the host
* `Stores.Written` — nor has anything but outputs of the work and the host
* `System.dispatchOn` — dispatches that all are for one host

## Main results

* `System.dispatchOn_steady` — they change nothing but outputs of the host, at any depth
* `Work.Reaches.written` — what work does that dispatches only in this way
* `System.dispatch_nested` — nested dispatches
-/

namespace Isolation

namespace Stores

variable {thread : ThreadId} {host context : StoreId} {stores between after : Stores}
  {writes more : List (String × String)}

/-- No context of a thread has changed but that of a host, and this one in its outputs only. -/
structure Steady (thread : ThreadId) (host : StoreId) (stores after : Stores) : Prop where
  others : ∀ id, id ≠ host → after.context? id thread = stores.context? id thread
  host : (after.context? host thread).map Context.snapshot =
    (stores.context? host thread).map Context.snapshot

theorem Steady.refl (thread : ThreadId) (host : StoreId) (stores : Stores) :
    Steady thread host stores stores :=
  ⟨fun _ _ => rfl, rfl⟩

theorem Steady.trans (first : Steady thread host stores between)
    (second : Steady thread host between after) : Steady thread host stores after where
  others id h := (second.others id h).trans (first.others id h)
  host := second.host.trans first.host

theorem Steady.of_context?
    (h : ∀ id, after.context? id thread = stores.context? id thread) :
    Steady thread host stores after :=
  ⟨fun id _ => h id, congrArg _ (h host)⟩

theorem Steady.isActive (steady : Steady thread host stores after)
    (active : (stores.get host).isActive thread = true) :
    (after.get host).isActive thread = true := by
  have h := congrArg Option.isSome steady.host
  rw [Option.isSome_map, Option.isSome_map] at h
  rw [isActive_eq] at active ⊢
  rw [h, active]

/-- Work has set outputs in its context, and other work may have set outputs of a host. Nothing else
has changed in the contexts of the thread. -/
structure Written (thread : ThreadId) (host context : StoreId) (writes : List (String × String))
    (stores after : Stores) : Prop where
  others : ∀ id, id ≠ host → id ≠ context →
    after.context? id thread = stores.context? id thread
  own : context ≠ host →
    after.context? context thread = (stores.context? context thread).map (·.setting writes)
  host : (after.context? host thread).map Context.snapshot =
    (stores.context? host thread).map Context.snapshot

theorem Steady.written (steady : Steady thread host stores after) :
    Written thread host context [] stores after where
  others id hhost _ := steady.others id hhost
  own h := by
    rw [steady.others context h]
    cases stores.context? context thread <;> rfl
  host := steady.host

/-- Where the work runs in the context of the host, all outputs are those of the host. -/
theorem Written.steady (written : Written thread host host writes stores after) :
    Steady thread host stores after :=
  ⟨fun id h => written.others id h h, written.host⟩

theorem Written.trans (first : Written thread host context writes stores between)
    (second : Written thread host context more between after) :
    Written thread host context (writes ++ more) stores after where
  others id hhost hcontext := (second.others id hhost hcontext).trans (first.others id hhost hcontext)
  own h := by
    rw [second.own h, first.own h, Option.map_map]
    congr 1
    funext found
    exact (Context.setting_append found writes more).symm
  host := second.host.trans first.host

theorem written_puts (writes : List (String × String)) :
    Written thread host context writes stores (stores.puts thread context writes) where
  others id _ hcontext := context?_puts_of_ne hcontext writes
  own _ := context?_puts_self writes
  host := by
    by_cases h : host = context
    · subst h
      rw [context?_puts_self, Option.map_map]
      rfl
    · rw [context?_puts_of_ne h]

end Stores

/-- A way to dispatch that changes nothing but outputs of a host, where all is calm and the host has
a context. -/
def Dispatcher.Steady (thread : ThreadId) (host : StoreId) (nested : Dispatcher) : Prop :=
  ∀ {request system answer after}, system.Calm →
    (system.stores.get host).isActive thread = true → nested request system = some (answer, after) →
    after.Calm ∧ Stores.Steady thread host system.stores after.stores

namespace Work

variable {nested : Dispatcher} {thread : ThreadId} {host context : StoreId} {work rest : Work}
  {system after : System} {writes : List (String × String)}

/-- What calm work does, action by action, if the dispatches it asks for are steady: the outputs that
it sets are in its own context, and all else that has changed are outputs of the host. -/
theorem Reaches.written (steady : nested.Steady thread host) (calm : work.Calm)
    (all : system.Calm) (active : (system.stores.get host).isActive thread = true)
    (h : Reaches nested thread context work system writes rest after) :
    after.Calm ∧ Stores.Written thread host context writes system.stores after.stores := by
  -- the induction is on the actions: a dispatch leaves outputs with the host, any other action only
  -- in the context of the work
  induction h with
  | refl => exact ⟨all, (Stores.Steady.refl thread host _).written⟩
  | @step work _ _ start _ _ _ first _ ih =>
    obtain ⟨_, _, _, rfl, hnested, -⟩ | ⟨hcalm, hstores⟩ := calm.step_cases first
    · obtain ⟨hbetween, hsteady⟩ := steady all active hnested
      obtain ⟨hafter, hrest⟩ := ih (calm.step first) hbetween (hsteady.isActive active)
      exact ⟨hafter, hsteady.written.trans hrest⟩
    · have hactive : ((start.stores.puts thread context work.write?.toList).get host).isActive
          thread = true := Stores.keeps_puts _ host active
      rw [← hstores] at hactive
      obtain ⟨hafter, hrest⟩ := ih (calm.step first) (hcalm all) hactive
      refine ⟨hafter, Stores.Written.trans ?_ hrest⟩
      rw [hstores]
      exact Stores.written_puts _

end Work

namespace System

variable {thread : ThreadId} {host : StoreId} {request : Request} {system : System}

/-- Dispatches with the context of one host, also those of their work; none if another host is asked
for. -/
def dispatchOn (thread : ThreadId) (host : StoreId) : Nat → Dispatcher
  | 0, _, _ => none
  | depth + 1, request, system =>
    if system.storeOf request.store = host then
      dispatchInto (dispatchOn thread host depth) thread host (·.target request.target) request.work
        request.item system
    else none

/-- They are dispatches like all others. -/
theorem dispatch_extends_dispatchOn (depth : Nat) :
    Dispatcher.Extends (dispatch thread depth) (dispatchOn thread host depth) := by
  induction depth with
  | zero => nofun
  | succ depth ih =>
    intro request system result h
    rw [dispatchOn] at h
    split at h
    · next hhost =>
      rw [dispatch, hhost]
      exact dispatchInto_of_extends ih h
    · cases h

/-- Asking for a unit and calling its entry point, if there is one. -/
theorem invoke_written {nested : Dispatcher} {boundary : LoaderRef} {context : StoreId}
    {work item : String} {answer : Attempt (Except DispatchError Outcome)} {after : System}
    (steady : nested.Steady thread host) (all : system.Calm)
    (active : (system.stores.get host).isActive thread = true)
    (h : invoke nested thread boundary context work item system = some (answer, after)) :
    ∃ writes, Stores.Written thread host context writes system.stores after.stores := by
  have hresolved : (system.resolve boundary work).2.Calm := (all.resolve rfl).1
  cases hcalls : system.calls boundary work with
  | none =>
    obtain ⟨answer, hanswer⟩ := invoke_of_calls_none hcalls
    rw [hanswer] at h
    cases h
    exact ⟨[], (Stores.Steady.refl thread host _).written⟩
  | some called =>
    rw [invoke_of_calls hcalls] at h
    obtain ⟨⟨ended, ran⟩, hran, hanswer⟩ := Option.map_eq_some_iff.1 h
    cases hanswer
    obtain ⟨writes, reaches⟩ := Work.exists_reaches hran
    exact ⟨writes, (reaches.written steady (all.calls hcalls _) hresolved active).2⟩

/-- A context that was carried in and has ended leaves nothing behind but outputs of the host. -/
theorem steady_of_tearDown {armed : Bool} {context : StoreId} {stores started : Stores}
    {left : System} {writes : List (String × String)}
    (active : (stores.get host).isActive thread = true)
    (carried : stores.propagateIn thread host context = (.ok armed, started))
    (written : Stores.Written thread host context writes started left.stores) :
    Stores.Steady thread host stores (tearDown thread host context armed left).2.stores := by
  obtain ⟨found, hfound⟩ := Store.isActive_iff.1 active
  rw [tearDown_eq]
  cases armed with
  | false =>
    -- where the host has a context, nothing is carried in only if the store is its own
    have hsame : host = context := by
      by_contra different
      rw [Stores.propagateIn_eq different hfound] at carried
      cases hcontext : stores.context? context thread <;> (rw [hcontext] at carried; cases carried)
    subst hsame
    rw [Stores.propagateIn_self] at carried
    cases carried
    exact written.steady
  | true =>
    obtain ⟨different, inactive, _, _, rfl⟩ := Stores.propagateIn_true carried
    rw [if_pos rfl]
    constructor
    -- the store of the boundary had no context before, and has none after its context has ended
    · intro id hid
      rw [Stores.context?_propagateOut different, if_neg hid]
      by_cases hcontext : id = context
      · rw [if_pos hcontext, hcontext, inactive]
      · rw [if_neg hcontext, written.others id hid hcontext, Stores.context?_set_of_ne hcontext]
    · have hhost := written.host
      rw [Stores.context?_set_of_ne different] at hhost
      rw [Stores.context?_propagateOut different, if_neg different, if_pos rfl, Option.map_map,
        ← hhost]
      rfl

/-- If the dispatches that work asks for change nothing but outputs of the host, this goes for the
dispatch itself. -/
theorem dispatchInto_steady {nested : Dispatcher} {target : Target} {work item : String}
    {answer : Attempt (Except DispatchError Outcome)} {after : System}
    (steady : nested.Steady thread host) (all : system.Calm)
    (active : (system.stores.get host).isActive thread = true)
    (h : dispatchInto nested thread host (·.target target) work item system =
      some (answer, after)) :
    Stores.Steady thread host system.stores after.stores := by
  have hsupplied : Stores.Steady thread host system.stores (system.target target).2.stores :=
    Stores.Steady.of_context? fun id => context?_target system target id
  obtain ⟨error, hsupply⟩ | ⟨boundary, built, hsupply, hends⟩ := dispatchInto_cases h
  · rw [hsupply] at hsupplied
    exact hsupplied
  · have hcalm : (system.target target).2.Calm := by
      have htarget : (system.target target).2.Calm ∧
          Stores.Keeps thread system.stores (system.target target).2.stores := all.target target
      exact htarget.1
    rw [hsupply] at hsupplied hcalm
    have hactive := hsupplied.isActive active
    obtain ⟨_, stores, hcarried, rfl⟩ | ⟨armed, stores, _, ran, hcarried, hleft, rfl⟩ := hends
    · obtain ⟨-, rfl, -⟩ := Stores.propagateIn_error hcarried
      rw [stores_setSlot]
      exact hsupplied
    · have hstarted : (stores.get host).isActive thread = true := by
        have hkeeps : ((built.stores.propagateIn thread host (built.contextOf boundary)).2.get
            host).isActive thread = true := Stores.keeps_propagateIn host hactive
        rwa [hcarried] at hkeeps
      obtain ⟨writes, hwritten⟩ := invoke_written steady
        ((hcalm.setSlot (some boundary)).withStores stores) hstarted hleft
      rw [stores_setSlot]
      exact hsupplied.trans (steady_of_tearDown hactive hcarried hwritten)

/-- To whatever depth work for a host dispatches other work for it, nothing changes in the contexts
of the thread but outputs of this host. -/
theorem dispatchOn_steady (depth : Nat) : (dispatchOn thread host depth).Steady thread host := by
  -- that all stays calm is known of dispatches at any depth; the contexts need the induction
  induction depth with
  | zero => nofun
  | succ depth ih =>
    intro request system answer after all active h
    have hcalm : after.Calm := (Calm.dispatch _ all (dispatch_extends_dispatchOn _ h)).1
    rw [dispatchOn] at h
    split at h
    · exact ⟨hcalm, dispatchInto_steady ih all active h⟩
    · cases h

/-! ### Boundaries in use -/

/-- A boundary whose store is in use refuses to be entered, whatever it is asked for. -/
theorem dispatch_of_inUse {boundary : LoaderRef} {built : System} {context there : Context}
    (supplied : system.target request.target = (.ok boundary, built))
    (active : system.stores.context? (system.storeOf request.store) thread = some context)
    (different : system.storeOf request.store ≠ built.contextOf boundary)
    (inUse : built.stores.context? (built.contextOf boundary) thread = some there) :
    ∃ after, (∀ depth work item,
        dispatch thread (depth + 1) { request with work, item } system =
          some (.done (.error (.propagate (.context .alreadyActive))), after)) ∧
      after.loaders = built.loaders ∧ after.log = system.log ∧
      (∀ id, after.stores.get id = system.stores.get id) ∧
      ∀ other, after.slots.get? other = system.slots.get? other := by
  have hactive : built.stores.context? (system.storeOf request.store) thread = some context := by
    rw [← active, ← context?_target system request.target, supplied]
  have hrefused : built.stores.propagateIn thread (system.storeOf request.store)
      (built.contextOf boundary) = (.error (.context .alreadyActive), built.stores) := by
    rw [Stores.propagateIn_eq different hactive, inUse]
  have hframe := target_frame system request.target
  rw [supplied] at hframe
  refine ⟨(built.entered thread boundary built.stores).setSlot thread (built.slots.get? thread),
    ?_, ?_, ?_, ?_, ?_⟩
  · intro depth work item
    exact dispatchInto_of_refused supplied hrefused
  · rw [loaders_setSlot]
    rfl
  · rw [log_setSlot, ← hframe.2]
    rfl
  · intro id
    have hget := get_stores_target system request.target id
    rw [supplied] at hget
    rw [stores_setSlot, ← hget]
    rfl
  · intro other
    by_cases hother : other = thread
    · rw [hother, get?_setSlot, hframe.1]
    · have hentered : (built.entered thread boundary built.stores).slots.get? other =
          built.slots.get? other := get?_setSlot_of_ne hother _
      rw [get?_setSlot_of_ne hother, hentered, hframe.1]

/-! ### Work around other work -/

namespace Crossing

variable {context : Context} (crossing : Crossing thread request system context)
  {unit : LoadedUnit} {handler : Handler} {depth : Nat} {writes : List (String × String)}
  {rest : Work} {between : System}

/-- While the work runs, what it has set is in its own context. -/
theorem context?_of_reaches (all : system.Calm)
    (calls : crossing.entry.calls = some (unit, handler))
    (reaches : Work.Reaches (dispatchOn thread crossing.entry.host depth) thread
      crossing.entry.context (handler (unit.invocation request.item)) crossing.entry.resolved writes
      rest between) :
    between.stores.context? crossing.entry.context thread =
        some { input := context.input, output := .ofList writes, env := context.env } ∧
      ∃ left, between.stores.context? crossing.entry.host thread = some left ∧
        left.input = context.input ∧ left.env = context.env := by
  have hinside := crossing.entry.inside_calm all
  have hresolved : crossing.entry.resolved.Calm := (hinside.resolve rfl).1
  have hactive : (crossing.entry.resolved.stores.get crossing.entry.host).isActive thread = true := by
    rw [Stores.isActive_eq, Entry.stores_resolved, crossing.context?_host, Option.isSome_some]
  obtain ⟨-, hwritten⟩ := reaches.written (dispatchOn_steady depth) (hinside.calls calls _)
    hresolved hactive
  constructor
  · rw [hwritten.own crossing.host_ne_context.symm, Entry.stores_resolved, crossing.context?_inside,
      StringMap.ofList_eq_insertAll]
    rfl
  · have hhost := hwritten.host
    rw [Entry.stores_resolved, crossing.context?_host, Option.map_some] at hhost
    obtain ⟨left, hleft, hsnapshot⟩ := Option.map_eq_some_iff.1 hhost
    exact ⟨left, hleft, congrArg Snapshot.input hsnapshot, congrArg Snapshot.env hsnapshot⟩

/-- When it has come to an end, that is added to what the host has by then. -/
theorem dispatch_of_reaches_on {ended : Ended} {ran : System} {left : Context} (all : system.Calm)
    (calls : crossing.entry.calls = some (unit, handler))
    (reaches : Work.Reaches (dispatchOn thread crossing.entry.host depth) thread
      crossing.entry.context (handler (unit.invocation request.item)) crossing.entry.resolved writes
      (.ofEnded ended) ran)
    (hleft : ran.stores.context? crossing.entry.host thread = some left) :
    dispatch thread (depth + 1) request system =
        some (answerOf unit.info ended, crossing.entry.leave ran) ∧
      (crossing.entry.leave ran).stores.context? crossing.entry.host thread =
        some { left with output := left.output.override (.ofList writes) } := by
  obtain ⟨hown, -⟩ := crossing.context?_of_reaches all calls reaches
  have hcollect : (crossing.entry.collect ran).1 = .ok () := by
    apply crossing.entry.collect_of_kept
    intro _
    rw [Stores.isActive_eq, Stores.isActive_eq, hleft, hown]
    exact ⟨rfl, rfl⟩
  constructor
  · have hrun := (reaches.of_extends (dispatch_extends_dispatchOn depth)).run_eq_some
    rw [crossing.entry.dispatch_of_calls calls hrun, hcollect, settle_ok]
  · rw [crossing.entry.context?_leave rfl crossing.host_ne_context, if_neg crossing.host_ne_context,
      if_pos rfl, hleft, hown, Option.map_some, Stores.outputsOf, Option.map_some, Option.getD_some]

end Crossing

/-- Dispatches that work asks for while it runs. If the host has a context, and the boundary another
store in which there is one already, then the dispatch is refused, whatever it asks for: it changes
no loader, no context and no slot. Any other one answers and does what the same dispatch would, from
the same system, with nothing around it: with more room for deeper ones, and with anything in the slot.

Now let all entry points leave contexts alone, and let the host of a dispatch have a context that
crosses into a store of its own. At every moment of its work, which may dispatch other work for this
host to any depth, the outputs that the work itself has set are in its own context, and the host has
kept its inputs and its environment, and has no more outputs than the dispatches within have left.
When the work is over, each key that it has set gets its last value there, and all other outputs stay
as they were left. -/
theorem dispatch_nested (thread : ThreadId) (depth : Nat) :
    (∀ (request : Request) (system built : System) (boundary : LoaderRef) (context there : Context),
      system.target request.target = (.ok boundary, built) →
      system.stores.context? (system.storeOf request.store) thread = some context →
      system.storeOf request.store ≠ built.contextOf boundary →
      built.stores.context? (built.contextOf boundary) thread = some there →
      ∃ after, (∀ work item next enclosing,
          (Work.dispatch { request with work, item } next).step? (dispatch thread (depth + 1)) thread
              enclosing system =
            some (next (.done (.error (.propagate (.context .alreadyActive)))), after)) ∧
        after.loaders = built.loaders ∧ after.log = system.log ∧
        (∀ id, after.stores.get id = system.stores.get id) ∧
        ∀ other, after.slots.get? other = system.slots.get? other) ∧
    (∀ request next enclosing system rest after,
      (Work.dispatch request next).step? (dispatch thread depth) thread enclosing system =
        some (rest, after) →
      ∃ answer, rest = next answer ∧ ∀ deeper slot, depth ≤ deeper →
        dispatch thread deeper request (system.setSlot thread slot) =
          some (answer, after.setSlot thread slot)) ∧
    ∀ (request : Request) (system : System) (context : Context)
      (crossing : Crossing thread request system context) unit handler, system.Calm →
      crossing.entry.calls = some (unit, handler) →
      ∀ writes rest between,
        Work.Reaches (dispatchOn thread crossing.entry.host depth) thread crossing.entry.context
          (handler (unit.invocation request.item)) crossing.entry.resolved writes rest between →
        between.stores.context? crossing.entry.context thread =
          some { input := context.input, output := .ofList writes, env := context.env } ∧
        ∃ left, between.stores.context? crossing.entry.host thread = some left ∧
          left.input = context.input ∧ left.env = context.env ∧
          (∀ last next, (∀ request then', rest ≠ .dispatch request then') →
            rest.step? (dispatchOn thread crossing.entry.host depth) thread crossing.entry.context
              between = some (last, next) →
            next.stores.context? crossing.entry.host thread = some left) ∧
          ∀ ended, rest = .ofEnded ended →
            ∃ after final,
              dispatch thread (depth + 1) request system =
                some (answerOf unit.info ended, after) ∧
              after.stores.context? crossing.entry.host thread = some final ∧
              final.input = context.input ∧ final.env = context.env ∧
              ∀ key, final.output.find? key =
                (Fields.find? key writes.reverse).or (left.output.find? key) := by
  refine ⟨?_, ?_, ?_⟩
  · intro request system built boundary context there supplied active different inUse
    obtain ⟨after, hdispatch, hafter⟩ := dispatch_of_inUse supplied active different inUse
    refine ⟨after, ?_, hafter⟩
    intro work item next enclosing
    rw [Work.step?, hdispatch, Option.map_some]
  · intro request next enclosing system rest after h
    obtain ⟨⟨answer, left⟩, hleft, hnext⟩ := Option.map_eq_some_iff.1 h
    cases hnext
    refine ⟨answer, rfl, ?_⟩
    intro deeper slot le
    rw [dispatch_setSlot, dispatch_of_le le hleft, Option.map_some]
  · intro request system context crossing unit handler all calls writes rest between reaches
    obtain ⟨hown, left, hleft, hinput, henv⟩ := crossing.context?_of_reaches all calls reaches
    refine ⟨hown, left, hleft, hinput, henv, ?_, ?_⟩
    -- an action that is no dispatch sets an output of the work itself, if anything
    · intro last next alone hstep
      have hcalm := ((crossing.entry.inside_calm all).calls calls _).reaches reaches
      obtain ⟨request, then', _, hrest, -⟩ | ⟨-, hstores⟩ := hcalm.step_cases hstep
      · exact absurd hrest (alone request then')
      · rw [hstores, Stores.context?_puts_of_ne crossing.host_ne_context, hleft]
    · rintro ended rfl
      obtain ⟨hdispatch, hhost⟩ := crossing.dispatch_of_reaches_on all calls reaches hleft
      refine ⟨_, _, hdispatch, hhost, hinput, henv, ?_⟩
      intro key
      rw [StringMap.override_ofList, StringMap.find?_insertAll]

/-! ### Work that sets an output before it dispatches -/

/-- A unit that is asked for in the other boundary. -/
def askC : Request := { work := "C", item := "y", store := .process, target := .existing "D" }

/-- Work that sets an output and then dispatches work to the other boundary. -/
def enclosing : Work := .put "k" "outer" fun _ => .dispatch askC fun _ => .finish (.ok .null)

/-- A registry with this work, and with work that sets the same output for the other unit. -/
def nestingRegistry : Registry :=
  (Registry.empty.registerWork "A" fun _ => enclosing).registerWork "C" fun _ =>
    .put "k" "inner" fun _ => .finish (.ok .null)

/-- A system with these two units. -/
def nestingStage : System := staged nestingRegistry

theorem calm_staged {registry : Registry} (calm : registry.Calm) : (staged registry).Calm := by
  have hstart : System.Calm
      { files := twoUnits, stores := (({} : Stores).change processStore (·.start 0 {})).2 } := by
    constructor
    · intro ref loader h
      simp [Loaders.get?] at h
    · intro name registry h
      cases h
  have hboundary : ∀ system : System, system.Calm →
      ((Operation.boundary {} 0 .empty).perform system).Calm := by
    intro system hsystem
    rw [Operation.perform]
    split
    · have hmade : (system.makeBoundary {} 0 .empty).2.Calm ∧ Stores.Keeps 0 system.stores
          (system.makeBoundary {} 0 .empty).2.stores :=
        hsystem.makeBoundary Registry.calm_empty {} 0
      exact hmade.1
    · exact hsystem
  have hrun := hboundary _ (hboundary _ (hstart.makeHost calm [.directory "lib"] processStore))
  exact ⟨hrun.loaders, hrun.registries⟩

theorem calm_nestingStage : nestingStage.Calm := by
  apply calm_staged
  refine (Registry.calm_empty.registerWork "A" ?_).registerWork "C" ?_
  · intro _
    exact .put fun _ => .dispatch fun _ => .finish _
  · intro _
    exact .put fun _ => .finish _

/-- The first unit is asked for in its boundary. -/
def nestingCrossing : Crossing 0 askA nestingStage { input := ∅, output := ∅, env := ∅ } where
  boundary := 1
  built := nestingStage
  supplied := by with_unfolding_all rfl
  active := by decide +kernel
  different := by decide +kernel
  inactive := by decide +kernel

/-- The unit that the host makes. -/
def nestingUnit : LoadedUnit :=
  { serial := 0, name := "A", loader := ⟨1⟩, archive := "lib", path := "A.unit", bytes := [1]
    entries := nestingRegistry.link "A" }

theorem nestingCrossing_calls :
    nestingCrossing.entry.calls = some (nestingUnit, fun _ => enclosing) := by
  rw [Entry.calls, calls, System.resolve]
  with_unfolding_all rfl

/-- The system after the first output was set. -/
def nestingBefore : System :=
  { nestingCrossing.entry.resolved with
    stores := nestingCrossing.entry.resolved.stores.puts 0 1 [("k", "outer")] }

/-- The system after the other unit ran. -/
def nestingBetween : System :=
  ((dispatchOn 0 processStore 2 askC nestingBefore).map Prod.snd).getD nestingBefore

theorem context?_nestingBetween :
    nestingBetween.stores.context? processStore 0 =
      some { input := ∅, output := .ofList [("k", "inner")], env := ∅ } := by
  decide +kernel

/-- The value of the enclosing work prevails although that of the nested work was set later. In
between the boundary of the former refuses to be entered. -/
theorem dispatch_nested_enclosing :
    (∃ after, ∀ next, (Work.dispatch askA next).step? (dispatch 0 2) 0 1 nestingBetween =
      some (next (.done (.error (.propagate (.context .alreadyActive)))), after)) ∧
    (∃ answer, dispatch 0 4 askC (nestingBefore.setSlot 0 none) =
      some (answer, nestingBetween.setSlot 0 none)) ∧
    ∃ left answer after final, nestingBetween.stores.context? processStore 0 = some left ∧
      left.output.find? "k" = some "inner" ∧
      dispatch 0 3 askA nestingStage = some (answer, after) ∧
      after.stores.context? processStore 0 = some final ∧
      final.output.find? "k" = some "outer" := by
  obtain ⟨inner, hinner⟩ : ∃ inner, dispatchOn 0 processStore 2 askC nestingBefore =
      some (inner, nestingBetween) := by
    have hsome : (dispatchOn 0 processStore 2 askC nestingBefore).isSome = true := by
      decide +kernel
    obtain ⟨⟨inner, between⟩, hbetween⟩ := Option.isSome_iff_exists.1 hsome
    rw [nestingBetween, hbetween]
    exact ⟨inner, rfl⟩
  have hstep : ∀ nested : Dispatcher, nested askC nestingBefore = some (inner, nestingBetween) →
      (Work.dispatch askC fun _ => .finish (.ok .null)).step? nested 0 1 nestingBefore =
        some (.finish (.ok .null), nestingBetween) := by
    intro nested hnested
    rw [Work.step?, hnested, Option.map_some]
  refine ⟨?_, ?_, ?_⟩
  · have hnamed : nestingBetween.loaderNamed? "B" = some 1 := by decide +kernel
    have supplied : nestingBetween.target askA.target = (.ok 1, nestingBetween) := by
      rw [askA, target, hnamed, Option.getD_some]
    obtain ⟨after, hrefused, -⟩ := (dispatch_nested 0 1).1 askA nestingBetween nestingBetween 1 _
      { input := ∅, output := .ofList [("k", "outer")], env := ∅ }
      supplied context?_nestingBetween (by decide +kernel) (by decide +kernel)
    exact ⟨after, fun next => hrefused "A" "x" next 1⟩
  · obtain ⟨answer, -, htop⟩ := (dispatch_nested 0 2).2.1 askC _ 1 nestingBefore _ nestingBetween
      (hstep _ (dispatch_extends_dispatchOn 2 hinner))
    exact ⟨answer, htop 4 none (by decide)⟩
  · have hhost : nestingCrossing.entry.host = processStore := by decide +kernel
    have hcontext : nestingCrossing.entry.context = 1 := by decide +kernel
    have reaches : Work.Reaches (dispatchOn 0 nestingCrossing.entry.host 2) 0
        nestingCrossing.entry.context enclosing nestingCrossing.entry.resolved [("k", "outer")]
        (.ofEnded (.done (.ok .null))) nestingBetween := by
      rw [hhost, hcontext]
      have hput : enclosing.step? (dispatchOn 0 processStore 2) 0 1
          nestingCrossing.entry.resolved =
            some (.dispatch askC fun _ => .finish (.ok .null), nestingBefore) := rfl
      exact .step hput (.step (hstep _ hinner) (.refl _ _))
    obtain ⟨-, left, hleft, -, -, -, hended⟩ := (dispatch_nested 0 2).2.2 askA nestingStage _
      nestingCrossing nestingUnit _ calm_nestingStage nestingCrossing_calls _ _ _ reaches
    obtain ⟨after, final, hdispatch, hfinal, -, -, houtput⟩ := hended _ rfl
    rw [hhost, context?_nestingBetween] at hleft
    rw [hhost] at hfinal
    cases hleft
    exact ⟨_, _, after, final, context?_nestingBetween, rfl, hdispatch, hfinal, houtput "k"⟩

end System

end Isolation
