import Isolation.System.Basic

/-!
# How loaders answer

Hosts and boundaries stacked on each other, without relays between them: what one request does to
them, written as rules. A rule names the loader that was asked, what was found in its cache or its
archives, and the answer of its parent if that was needed. All laws on sequences of requests are
inductions over these rules.

## Main definitions

* `Loaders.Layered` — hosts, and boundaries that come after their parents
* `Loaders.Answers` — the rules
* `Loaders.Holds` — which loader keeps a unit under which name

## Main results

* `Loaders.Layered.answers` — every request is answered, and by the rules
* `Loaders.Answers.get?_of_lt` — a request leaves alone what stands above the loader that is asked
-/

namespace Isolation

/-- The three ends of a search in opened archives. -/
theorem materialize_cases (files : FileSystem) (archives : List OpenArchive) (id : LoaderId)
    (registry : Registry) (symbol : String) (serial : Nat) (cache : StringMap LoadedUnit) :
    (∃ error, findUnit files archives symbol = .error error ∧
        materialize files archives id registry symbol serial cache =
          (.error (.archive error), cache, serial)) ∨
      (findUnit files archives symbol = .ok none ∧
        materialize files archives id registry symbol serial cache =
          (.error (.notFound symbol), cache, serial)) ∨
      ∃ located, findUnit files archives symbol = .ok (some located) ∧
        materialize files archives id registry symbol serial cache =
          (.ok (.ofLocated serial symbol id located registry),
            cache.insert symbol (.ofLocated serial symbol id located registry), serial + 1) := by
  unfold materialize
  cases h : findUnit files archives symbol with
  | error error => exact .inl ⟨error, rfl, rfl⟩
  | ok found =>
    cases found with
    | none => exact .inr (.inl ⟨rfl, rfl⟩)
    | some located => exact .inr (.inr ⟨located, rfl, rfl⟩)

/-- What a search in opened archives comes to, with its parts named. -/
theorem exists_search (files : FileSystem) (archives : List OpenArchive) (id : LoaderId)
    (registry : Registry) (symbol : String) (serial : Nat) (cache : StringMap LoadedUnit) :
    ∃ answer cache' serial',
      materialize files archives id registry symbol serial cache = (answer, cache', serial') :=
  ⟨_, _, _, rfl⟩

namespace Boundary

variable {boundary : Boundary} {sets : OpenSets}

theorem isClosed_eq_false_iff : boundary.isClosed = false ↔ ∃ sets, boundary.sets = some sets := by
  rw [isClosed, Option.isNone_eq_false_iff, Option.isSome_iff_exists]

theorem not_closed (unshut : boundary.sets = some sets) : boundary.isClosed = false :=
  isClosed_eq_false_iff.2 ⟨sets, unshut⟩

end Boundary

namespace Loader

/-- The units that a loader has made, under the names they were asked for. -/
def cache : Loader → StringMap LoadedUnit
  | host h => h.cache
  | boundary b => b.cache
  | relay _ => ∅

/-- The loader without what requests change: its units, and its search path once that is open. -/
def frame : Loader → Loader
  | host h => host { h with cache := ∅ }
  | boundary b =>
    boundary { b with
      cache := ∅, sets := b.sets.map fun sets => { sets with fallback := none } }
  | relay r => relay r

/-- Hosts stay hosts. -/
theorem exists_host_of_frame {loader : Loader} {h : Host} (heq : loader.frame = (host h).frame) :
    ∃ h', loader = host h' := by
  cases loader with
  | host h' => exact ⟨h', rfl⟩
  | boundary | relay => cases heq

/-- Boundaries stay boundaries, and open ones stay open. -/
theorem exists_boundary_of_frame {loader : Loader} {b : Boundary}
    (heq : loader.frame = (boundary b).frame) :
    ∃ b', loader = boundary b' ∧ b'.policy = b.policy ∧ b'.parent = b.parent ∧
      b'.sets.isSome = b.sets.isSome := by
  cases loader with
  | host | relay => cases heq
  | boundary b' =>
    injection heq with heq
    injection heq with _ hpolicy hparent _ _ hsets
    refine ⟨b', rfl, hpolicy, hparent, ?_⟩
    simpa only [Option.isSome_map] using congrArg Option.isSome hsets

theorem id_of_frame {loader loader' : Loader} (h : loader'.frame = loader.frame) :
    loader'.id = loader.id := by
  have id_frame (loader : Loader) : loader.frame.id = loader.id := by cases loader <;> rfl
  rw [← id_frame loader', h, id_frame]

theorem archives_of_frame {loader loader' : Loader} (h : loader'.frame = loader.frame) :
    loader'.archives = loader.archives := by
  have archives_frame (loader : Loader) : loader.frame.archives = loader.archives := by
    cases loader <;> rfl
  rw [← archives_frame loader', h, archives_frame]

end Loader

namespace Loaders

/-- Hosts, and boundaries that come after their parents. -/
structure Layered (loaders : Loaders) : Prop where
  not_relay : ∀ {ref relay}, loaders.get? ref ≠ some (.relay relay)
  parent_lt : ∀ {ref boundary}, loaders.get? ref = some (.boundary boundary) →
    boundary.parent < ref

/-- What is answered to a request for a name, and the loaders afterwards. -/
inductive Answers (files : FileSystem) (symbol : String) (loaders : Loaders) :
    LoaderRef → Except ResolveError LoadedUnit → Loaders → Prop
  | hostKnown {ref host unit} (here : loaders.get? ref = some (.host host))
      (known : host.cache.find? symbol = some unit) :
      Answers files symbol loaders ref (.ok unit) loaders
  | hostSearch {ref host answer cache serial} (here : loaders.get? ref = some (.host host))
      (unknown : host.cache.find? symbol = none)
      (search : materialize files host.opened host.id host.registry symbol loaders.nextSerial
        host.cache = (answer, cache, serial)) :
      Answers files symbol loaders ref answer
        { loaders.set ref (.host { host with cache }) with nextSerial := serial }
  | closed {ref boundary} (here : loaders.get? ref = some (.boundary boundary))
      (shut : boundary.sets = none) :
      Answers files symbol loaders ref (.error (.closed boundary.id)) loaders
  | known {ref boundary sets unit} (here : loaders.get? ref = some (.boundary boundary))
      (unshut : boundary.sets = some sets) (route : boundary.policy.route symbol ≠ .excluded)
      (known : boundary.cache.find? symbol = some unit) :
      Answers files symbol loaders ref (.ok unit) loaders
  | isolated {ref boundary sets answer cache serial}
      (here : loaders.get? ref = some (.boundary boundary)) (unshut : boundary.sets = some sets)
      (route : boundary.policy.route symbol = .isolated)
      (unknown : boundary.cache.find? symbol = none)
      (search : materialize files sets.isolated boundary.id boundary.registry symbol
        loaders.nextSerial boundary.cache = (answer, cache, serial)) :
      Answers files symbol loaders ref answer
        { loaders.set ref (.boundary { boundary with cache }) with nextSerial := serial }
  | excluded {ref boundary sets answer after}
      (here : loaders.get? ref = some (.boundary boundary)) (unshut : boundary.sets = some sets)
      (route : boundary.policy.route symbol = .excluded)
      (asked : Answers files symbol loaders boundary.parent answer after) :
      Answers files symbol loaders ref answer after
  | delegated {ref boundary sets answer after}
      (here : loaders.get? ref = some (.boundary boundary)) (unshut : boundary.sets = some sets)
      (route : boundary.policy.route symbol = .delegated)
      (unknown : boundary.cache.find? symbol = none)
      (asked : Answers files symbol loaders boundary.parent answer after)
      (answered : ∀ missing, answer ≠ .error (.notFound missing)) :
      Answers files symbol loaders ref answer after
  | unopened {ref boundary sets missing after error}
      (here : loaders.get? ref = some (.boundary boundary)) (unshut : boundary.sets = some sets)
      (route : boundary.policy.route symbol = .delegated)
      (unknown : boundary.cache.find? symbol = none)
      (asked : Answers files symbol loaders boundary.parent (.error (.notFound missing)) after)
      (failed : boundary.openFallback files sets = .error error) :
      Answers files symbol loaders ref (.error (.archive error)) after
  | fallback {ref boundary sets missing after opened answer cache serial}
      (here : loaders.get? ref = some (.boundary boundary)) (unshut : boundary.sets = some sets)
      (route : boundary.policy.route symbol = .delegated)
      (unknown : boundary.cache.find? symbol = none)
      (asked : Answers files symbol loaders boundary.parent (.error (.notFound missing)) after)
      (opens : boundary.openFallback files sets = .ok opened)
      (search : materialize files opened boundary.id boundary.registry symbol after.nextSerial
        boundary.cache = (answer, cache, serial)) :
      Answers files symbol loaders ref answer
        { after.set ref (.boundary { boundary with
            sets := some { sets with fallback := some opened }, cache }) with
          nextSerial := serial }

variable {files : FileSystem} {symbol : String} {loaders after : Loaders} {ref other : LoaderRef}
  {answer : Except ResolveError LoadedUnit}

theorem get?_eq_some_lt {loader : Loader} (h : loaders.get? ref = some loader) :
    ref < loaders.list.length :=
  (List.getElem?_eq_some_iff.1 h).1

theorem get?_set (h : ref < loaders.list.length) (loader : Loader) :
    (loaders.set ref loader).get? other =
      if other = ref then some loader else loaders.get? other := by
  simp only [get?, set, List.getElem?_set]
  by_cases ho : other = ref
  · simp [ho, h]
  · simp [ho, show ref ≠ other from fun h' => ho h'.symm]

theorem get?_set_self (h : ref < loaders.list.length) (loader : Loader) :
    (loaders.set ref loader).get? ref = some loader := by
  rw [get?_set h, if_pos rfl]

theorem get?_eq_none (h : ¬ ref < loaders.list.length) : loaders.get? ref = none :=
  List.getElem?_eq_none_iff.2 (Nat.le_of_not_lt h)

/-- In the beginning there is no loader. -/
theorem get?_nil (empty : loaders.list = []) (ref : LoaderRef) : loaders.get? ref = none := by
  rw [get?, empty, List.getElem?_nil]

/-- Putting a loader where it already stands changes nothing. -/
theorem set_get? {loader : Loader} (h : loaders.get? ref = some loader) :
    loaders.set ref loader = loaders := by
  obtain ⟨hlt, heq⟩ := List.getElem?_eq_some_iff.1 h
  simp only [set, ← heq, List.set_getElem_self]

/-- The unit that a loader keeps for a name. -/
def made? (loaders : Loaders) (ref : LoaderRef) (symbol : String) : Option LoadedUnit :=
  (loaders.get? ref).bind fun loader => loader.cache.find? symbol

/-- All loaders without what requests change. -/
def frame (loaders : Loaders) : List Loader := loaders.list.map Loader.frame

theorem frame_get? (h : after.frame = loaders.frame) (ref : LoaderRef) :
    (after.get? ref).map Loader.frame = (loaders.get? ref).map Loader.frame := by
  simpa only [frame, get?, List.getElem?_map] using congrArg (fun list => list[ref]?) h

theorem frame_set {loader : Loader} (h : (loaders.get? ref).map Loader.frame = some loader.frame) :
    (loaders.set ref loader).frame = loaders.frame := by
  have hset : (loaders.frame).set ref loader.frame = loaders.frame := by
    have here : loaders.frame[ref]? = some loader.frame := by
      simpa only [frame, get?, List.getElem?_map] using h
    obtain ⟨hlt, hget⟩ := List.getElem?_eq_some_iff.1 here
    rw [← hget, List.set_getElem_self]
  rw [← hset]
  simp only [frame, set, List.map_set]

theorem length_eq_of_frame (h : after.frame = loaders.frame) :
    after.list.length = loaders.list.length := by
  simpa only [frame, List.length_map] using congrArg List.length h

theorem exists_of_frame {loader : Loader} (h : after.frame = loaders.frame)
    (here : loaders.get? ref = some loader) :
    ∃ loader', after.get? ref = some loader' ∧ loader'.frame = loader.frame := by
  have hget := frame_get? h ref
  rw [here, Option.map_some] at hget
  exact Option.map_eq_some_iff.1 hget

theorem Layered.of_frame (layered : loaders.Layered) (h : after.frame = loaders.frame) :
    after.Layered where
  not_relay {ref relay} here := by
    obtain ⟨loader, here', heq⟩ := exists_of_frame h.symm here
    cases loader with
    | host | boundary => cases heq
    | relay r => exact layered.not_relay here'
  parent_lt {ref boundary} here := by
    obtain ⟨loader, here', heq⟩ := exists_of_frame h.symm here
    obtain ⟨boundary', rfl, -, hparent, -⟩ := Loader.exists_boundary_of_frame heq
    rw [← hparent]
    exact layered.parent_lt here'

/-- A request leaves alone all that stands above the loader that is asked. -/
theorem Answers.get?_of_lt (layered : loaders.Layered)
    (h : Answers files symbol loaders ref answer after) (hlt : ref < other) :
    after.get? other = loaders.get? other := by
  have get?_set_of_lt (before : Loaders) {r : LoaderRef} (loader : Loader) (hr : r < other) :
      (before.set r loader).get? other = before.get? other := by
    simp only [get?, set, List.getElem?_set_ne (Nat.ne_of_lt hr)]
  induction h with
  | hostKnown | closed | known => rfl
  | hostSearch | isolated => exact get?_set_of_lt loaders _ hlt
  | excluded here _ _ _ ih => exact ih (Nat.lt_trans (layered.parent_lt here) hlt)
  | delegated here _ _ _ _ _ ih => exact ih (Nat.lt_trans (layered.parent_lt here) hlt)
  | unopened here _ _ _ _ _ ih => exact ih (Nat.lt_trans (layered.parent_lt here) hlt)
  | fallback here _ _ _ _ _ _ ih =>
    exact (get?_set_of_lt _ _ hlt).trans (ih (Nat.lt_trans (layered.parent_lt here) hlt))

/-- A request changes the units of loaders and opens search paths, and nothing else. -/
theorem Answers.frame_eq (layered : loaders.Layered)
    (h : Answers files symbol loaders ref answer after) : after.frame = loaders.frame := by
  induction h with
  | hostKnown | closed | known => rfl
  | hostSearch here => exact frame_set (by rw [here]; rfl)
  | isolated here => exact frame_set (by rw [here]; rfl)
  | excluded _ _ _ _ ih => exact ih
  | delegated _ _ _ _ _ _ ih => exact ih
  | unopened _ _ _ _ _ _ ih => exact ih
  | fallback here unshut _ _ asked _ _ ih =>
    refine (frame_set ?_).trans ih
    rw [asked.get?_of_lt layered (layered.parent_lt here), here, Option.map_some]
    simp only [Loader.frame, unshut, Option.map_some]

/-- A boundary that its parent answered for is as it was before. -/
theorem unlessClosed_done {boundary : Boundary} (unit : LoadedUnit)
    (here : after.get? ref = some (.boundary boundary)) (h : boundary.isClosed = false) :
    unlessClosed ref boundary unit after = (.done (.ok unit), after) := by
  simp only [unlessClosed, boundary?, here, h, Bool.false_eq_true, if_false]

/-- Every request is answered, and by the rules. -/
theorem Layered.answers (layered : loaders.Layered) (files : FileSystem) (symbol : String)
    (href : ref < loaders.list.length) :
    ∃ answer after, loaders.resolve files symbol ref = (.done answer, after) ∧
      Answers files symbol loaders ref answer after := by
  -- the induction goes up the chain: parents come before their children
  induction ref using Nat.strongRecOn with
  | _ ref ih =>
    obtain ⟨loader, here⟩ : ∃ loader, loaders.get? ref = some loader :=
      ⟨_, List.getElem?_eq_getElem href⟩
    rw [resolve, here]
    cases loader with
    | relay relay => exact absurd here layered.not_relay
    | host host =>
      refine ⟨_, _, rfl, ?_⟩
      cases known : host.cache.find? symbol with
      | some unit =>
        simpa only [Host.resolve, known, set_get? here] using Answers.hostKnown here known
      | none =>
        obtain ⟨answer, cache, serial, search⟩ := exists_search files host.opened host.id
          host.registry symbol loaders.nextSerial host.cache
        simpa only [Host.resolve, known, search] using Answers.hostSearch here known search
    | boundary boundary =>
      cases shut : boundary.sets with
      | none =>
        refine ⟨_, _, ?_, .closed here shut⟩
        simp only [Boundary.isClosed, shut, Option.isNone_none, if_true]
      | some sets =>
        have unshut : boundary.isClosed = false := Boundary.not_closed shut
        have hlt := layered.parent_lt here
        obtain ⟨answer, after, hresolve, asked⟩ := ih boundary.parent hlt (Nat.lt_trans hlt href)
        -- asking the parent leaves this boundary as it is, so it is still open afterwards
        have now : after.get? ref = some (.boundary boundary) :=
          (asked.get?_of_lt layered hlt).trans here
        simp only [unshut, Bool.false_eq_true, if_false, hlt, if_true, hresolve]
        cases route : boundary.policy.route symbol with
        | isolated =>
          refine ⟨_, _, rfl, ?_⟩
          cases known : boundary.cache.find? symbol with
          | some unit =>
            simpa only [Boundary.resolveIsolated, known, set_get? here] using
              Answers.known here shut (by rw [route]; decide) known
          | none =>
            obtain ⟨answer, cache, serial, search⟩ := exists_search files sets.isolated boundary.id
              boundary.registry symbol loaders.nextSerial boundary.cache
            simpa only [Boundary.resolveIsolated, known, shut, search] using
              Answers.isolated here shut route known search
        | excluded =>
          refine ⟨answer, after, ?_, .excluded here shut route asked⟩
          cases answer with
          | ok unit => exact unlessClosed_done unit now unshut
          | error error => rfl
        | delegated =>
          cases known : boundary.cache.find? symbol with
          | some unit =>
            exact ⟨_, _, rfl, .known here shut (by rw [route]; decide) known⟩
          | none =>
            cases answer with
            | ok unit =>
              exact ⟨_, _, unlessClosed_done unit now unshut,
                .delegated here shut route known asked (by simp)⟩
            | error error =>
              cases error with
              | notFound missing =>
                simp only [boundary?, now]
                refine ⟨_, _, rfl, ?_⟩
                cases opens : boundary.openFallback files sets with
                | error error =>
                  simpa only [Boundary.resolveFallback, known, shut, opens, set_get? now] using
                    Answers.unopened here shut route known asked opens
                | ok opened =>
                  obtain ⟨answer, cache, serial, search⟩ := exists_search files opened
                    boundary.id boundary.registry symbol after.nextSerial boundary.cache
                  simpa only [Boundary.resolveFallback, known, shut, opens, search] using
                    Answers.fallback here shut route known asked opens search
              | noEntryPoint unit member =>
                exact ⟨_, _, rfl, .delegated here shut route known asked (by simp)⟩
              | archive error =>
                exact ⟨_, _, rfl, .delegated here shut route known asked (by simp)⟩
              | closed id =>
                exact ⟨_, _, rfl, .delegated here shut route known asked (by simp)⟩

/-- By the rules there is one answer, and it is the one that is given. -/
theorem Answers.resolve_eq (layered : loaders.Layered)
    (h : Answers files symbol loaders ref answer after) :
    loaders.resolve files symbol ref = (.done answer, after) := by
  induction h with
  | hostKnown here known =>
    rw [resolve, here]
    simp only [Host.resolve, known, keepHost, set_get? here]
  | hostSearch here unknown search =>
    rw [resolve, here]
    simp only [Host.resolve, unknown, search, keepHost]
  | closed here shut =>
    rw [resolve, here]
    simp only [Boundary.isClosed, shut, Option.isNone_none, if_true]
  | @known ref boundary sets unit here unshut route known =>
    rw [resolve, here]
    simp only [Boundary.isClosed, unshut, Option.isNone_some, Bool.false_eq_true, if_false]
    cases hroute : boundary.policy.route symbol with
    | excluded => exact absurd hroute route
    | isolated =>
      simp only [Boundary.resolveIsolated, known, keepBoundary, set_get? here]
    | delegated => simp only [known]
  | @isolated ref boundary sets answer cache serial here unshut route unknown search =>
    rw [resolve, here]
    simp only [Boundary.isClosed, unshut, Option.isNone_some, Bool.false_eq_true, if_false, route,
      Boundary.resolveIsolated, unknown, search, keepBoundary]
  | @excluded ref boundary sets answer after here unshut route asked ih =>
    have hlt := layered.parent_lt here
    have now := (asked.get?_of_lt layered hlt).trans here
    have unshut' : boundary.isClosed = false := Boundary.not_closed unshut
    rw [resolve, here]
    simp only [unshut', Bool.false_eq_true, if_false, route, hlt, if_true, ih]
    cases answer with
    | ok unit => exact unlessClosed_done unit now unshut'
    | error error => rfl
  | @delegated ref boundary sets answer after here unshut route unknown asked answered ih =>
    have hlt := layered.parent_lt here
    have now := (asked.get?_of_lt layered hlt).trans here
    have unshut' : boundary.isClosed = false := Boundary.not_closed unshut
    rw [resolve, here]
    simp only [unshut', Bool.false_eq_true, if_false, route, unknown, hlt, if_true, ih]
    cases answer with
    | ok unit => exact unlessClosed_done unit now unshut'
    | error error =>
      cases error with
      | notFound missing => exact absurd rfl (answered missing)
      | _ => rfl
  | @unopened ref boundary sets missing after error here unshut route unknown asked failed ih =>
    have hlt := layered.parent_lt here
    have now := (asked.get?_of_lt layered hlt).trans here
    rw [resolve, here]
    simp only [Boundary.isClosed, unshut, Option.isNone_some, Bool.false_eq_true, if_false, route,
      unknown, hlt, if_true, ih, boundary?, now, Boundary.resolveFallback, failed, keepBoundary,
      set_get? now]
  | @fallback ref boundary sets missing after opened answer cache serial here unshut route unknown
      asked opens search ih =>
    have hlt := layered.parent_lt here
    have now := (asked.get?_of_lt layered hlt).trans here
    rw [resolve, here]
    simp only [Boundary.isClosed, unshut, Option.isNone_some, Bool.false_eq_true, if_false, route,
      unknown, hlt, if_true, ih, boundary?, now, Boundary.resolveFallback, opens, search,
      keepBoundary]

end Loaders

end Isolation
