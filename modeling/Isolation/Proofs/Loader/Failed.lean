import Isolation.Proofs.Loader.Search

/-!
# Requests that fail

A request that is answered with an error leaves all loaders as they were, except that boundaries
may hold their search paths open now: those that the request needed, and that could be opened as a
whole. That a search path could not be opened is not remembered, and neither is that there was no
such unit: the next request that needs the path opens it as the files are then, and whoever answers
that there is no such unit has just looked for it.

## Main definitions

* `Loaders.Reaches`, `Loaders.Needs` — the boundaries whose search path a request needs
* `Loaders.Spares` — what a request may leave behind that fails
* `Loaders.Misses` — a loader and those above it have nothing for a symbol
* `System.OpensAfresh` — a search path is opened in a request

## Main results

* `Loaders.Answers.spares` — what a request leaves behind that fails
* `Loaders.Needs.answers` — how a request goes on that needs a search path
* `Loaders.notFound_iff_misses` — why there is no such unit
* `System.run_failed` — failed requests at any time
-/

namespace Isolation

variable {files : FileSystem} {symbol : String}

/-! ### Search paths -/

namespace Boundary

variable {boundary : Boundary} {sets : OpenSets} {opened : List OpenArchive}

/-- The archives on the search path of a boundary, if it holds them open. -/
def fallback? (boundary : Boundary) : Option (List OpenArchive) :=
  boundary.sets.bind OpenSets.fallback

/-- The boundary when it holds its search path open. -/
def holding (boundary : Boundary) (opened : List OpenArchive) : Boundary :=
  { boundary with sets := boundary.sets.map fun sets => { sets with fallback := some opened } }

theorem fallback?_eq (unshut : boundary.sets = some sets) : boundary.fallback? = sets.fallback := by
  rw [fallback?, unshut, Option.bind_some]

theorem holding_eq (unshut : boundary.sets = some sets) :
    boundary.holding opened =
      { boundary with sets := some { sets with fallback := some opened } } := by
  rw [holding, unshut, Option.map_some]

theorem holding_eq_self (held : boundary.fallback? = some opened) :
    boundary.holding opened = boundary := by
  obtain ⟨sets, unshut, hfallback⟩ := Option.bind_eq_some_iff.1 held
  rw [holding_eq unshut, ← hfallback, ← unshut]

theorem isClosed_holding : (boundary.holding opened).isClosed = boundary.isClosed :=
  Option.isNone_map

/-- What is not held open is opened. -/
theorem openFallback_eq (unshut : boundary.sets = some sets)
    (unopened : boundary.fallback? = none) :
    boundary.openFallback files sets = openAll files boundary.searchPath := by
  rw [openFallback, (fallback?_eq unshut).symm.trans unopened]

/-- A boundary passes a request on to its parent: it is open, and it excludes the symbol, or it
leaves the symbol to the parent and does not know it. -/
structure Passes (boundary : Boundary) (symbol : String) : Prop where
  unshut : boundary.isClosed = false
  route : boundary.policy.route symbol = .excluded ∨
    boundary.policy.route symbol = .delegated ∧ boundary.cache.find? symbol = none

theorem Passes.of_excluded (unshut : boundary.sets = some sets)
    (route : boundary.policy.route symbol = .excluded) : boundary.Passes symbol :=
  ⟨not_closed unshut, .inl route⟩

theorem Passes.of_delegated (unshut : boundary.sets = some sets)
    (route : boundary.policy.route symbol = .delegated)
    (unknown : boundary.cache.find? symbol = none) : boundary.Passes symbol :=
  ⟨not_closed unshut, .inr ⟨route, unknown⟩⟩

end Boundary

/-- Whether a loader is closed, as boundaries may be. -/
def Loader.isClosed : Loader → Bool
  | .boundary b => b.isClosed
  | .host _ | .relay _ => false

namespace Loaders

variable {loaders after : Loaders} {asked ref : LoaderRef} {boundary : Boundary}
  {answer : Except ResolveError LoadedUnit}

/-- The loaders that a request reaches: the one that is asked, and the parents of those that pass it
on. -/
inductive Reaches (symbol : String) (loaders : Loaders) (asked : LoaderRef) : LoaderRef → Prop
  | asked : Reaches symbol loaders asked asked
  | parent {ref : LoaderRef} {boundary : Boundary} (reaches : Reaches symbol loaders asked ref)
      (here : loaders.get? ref = some (.boundary boundary)) (passes : boundary.Passes symbol) :
      Reaches symbol loaders asked boundary.parent

/-- A request needs the search path of a boundary that it reaches: the boundary is open, does not
know the symbol and leaves it to its parent, and the parent answers that there is no such unit. -/
structure Needs (files : FileSystem) (symbol : String) (loaders : Loaders) (asked ref : LoaderRef)
    (boundary : Boundary) : Prop where
  reaches : Reaches symbol loaders asked ref
  here : loaders.get? ref = some (.boundary boundary)
  unshut : boundary.isClosed = false
  route : boundary.policy.route symbol = .delegated
  unknown : boundary.cache.find? symbol = none
  missing : ∃ missing,
    (loaders.resolve files symbol boundary.parent).1 = .done (.error (.notFound missing))

theorem Reaches.passed (here : loaders.get? asked = some (.boundary boundary))
    (passes : boundary.Passes symbol) (reaches : Reaches symbol loaders boundary.parent ref) :
    Reaches symbol loaders asked ref := by
  induction reaches with
  | asked => exact .parent .asked here passes
  | parent _ there passes ih => exact .parent ih there passes

/-- What the parent needs in a request that is passed on to it, the request needs. -/
theorem Needs.passed {needing : Boundary} (here : loaders.get? asked = some (.boundary boundary))
    (passes : boundary.Passes symbol)
    (needs : Needs files symbol loaders boundary.parent ref needing) :
    Needs files symbol loaders asked ref needing :=
  { needs with reaches := needs.reaches.passed here passes }

/-- The boundary that is asked needs its search path if its parent does not have the unit. -/
theorem needs_of_answers {sets : OpenSets} {missing : String} (layered : loaders.Layered)
    (here : loaders.get? ref = some (.boundary boundary)) (unshut : boundary.sets = some sets)
    (route : boundary.policy.route symbol = .delegated)
    (unknown : boundary.cache.find? symbol = none)
    (above : Answers files symbol loaders boundary.parent (.error (.notFound missing)) after) :
    Needs files symbol loaders ref ref boundary where
  reaches := .asked
  here := here
  unshut := Boundary.not_closed unshut
  route := route
  unknown := unknown
  missing := ⟨missing, congrArg Prod.fst (above.resolve_eq layered)⟩

/-! ### What is left behind -/

/-- The only thing that may have happened to a loader in a request that fails: it is a boundary that
holds its search path open now, which the request needed and which could be opened. -/
def UnchangedOrHolding (files : FileSystem) (symbol : String) (asked : LoaderRef)
    (before after : Loaders) (ref : LoaderRef) : Prop :=
  after.get? ref = before.get? ref ∨
    ∃ boundary opened, Needs files symbol before asked ref boundary ∧
      boundary.fallback? = none ∧ openAll files boundary.searchPath = .ok opened ∧
      after.get? ref = some (.boundary (boundary.holding opened))

/-- What a request leaves behind that fails: nothing but search paths that are open now. What
loaders keep is the same, and so are those that are closed, and the names and numbers of loaders. -/
structure Spares (files : FileSystem) (symbol : String) (asked : LoaderRef)
    (before after : Loaders) : Prop where
  names : after.names = before.names
  nextId : after.nextId = before.nextId
  nextSerial : after.nextSerial = before.nextSerial
  cache : ∀ ref, (after.get? ref).map Loader.cache = (before.get? ref).map Loader.cache
  closed : ∀ ref, (after.get? ref).map Loader.isClosed = (before.get? ref).map Loader.isClosed
  loader : ∀ ref, UnchangedOrHolding files symbol asked before after ref

theorem UnchangedOrHolding.passed (here : loaders.get? asked = some (.boundary boundary))
    (passes : boundary.Passes symbol)
    (h : UnchangedOrHolding files symbol boundary.parent loaders after ref) :
    UnchangedOrHolding files symbol asked loaders after ref := by
  obtain hsame | ⟨needing, opened, needs, hholds⟩ := h
  · exact .inl hsame
  · exact .inr ⟨needing, opened, needs.passed here passes, hholds⟩

/-- A boundary that has searched its search path in vain has opened it, unless it held it open. -/
theorem unchangedOrHolding_set {missing : String} {sets : OpenSets} {opened : List OpenArchive}
    (layered : loaders.Layered) (here : loaders.get? asked = some (.boundary boundary))
    (unshut : boundary.sets = some sets) (route : boundary.policy.route symbol = .delegated)
    (unknown : boundary.cache.find? symbol = none)
    (above : Answers files symbol loaders boundary.parent (.error (.notFound missing)) after)
    (opens : boundary.openFallback files sets = .ok opened)
    (h : UnchangedOrHolding files symbol boundary.parent loaders after ref) :
    UnchangedOrHolding files symbol asked loaders
      (after.set asked (.boundary (boundary.holding opened))) ref := by
  have now := (above.get?_of_lt layered (layered.parent_lt here)).trans here
  have hset : (after.set asked (.boundary (boundary.holding opened))).get? ref =
      if ref = asked then some (.boundary (boundary.holding opened)) else after.get? ref :=
    get?_set (get?_eq_some_lt now) _
  rw [UnchangedOrHolding, hset]
  split
  · next hself =>
    subst hself
    cases hfallback : boundary.fallback? with
    | none =>
      refine .inr ⟨boundary, opened, ?_, hfallback, ?_, rfl⟩
      · exact needs_of_answers layered here unshut route unknown above
      · rw [← Boundary.openFallback_eq unshut hfallback, opens]
    | some held =>
      -- a search path that is held open is not opened again
      obtain rfl : held = opened := by
        rw [Boundary.openFallback, (Boundary.fallback?_eq unshut).symm.trans hfallback] at opens
        exact Except.ok.inj opens
      rw [Boundary.holding_eq_self hfallback, here]
      exact .inl rfl
  · exact h.passed here (.of_delegated unshut route unknown)

/-- By the rules, errors change nothing but search paths. -/
theorem Answers.unchangedOrHolding {error : ResolveError} (layered : loaders.Layered)
    (h : Answers files symbol loaders asked (.error error) after) :
    (after.names = loaders.names ∧ after.nextId = loaders.nextId ∧
      after.nextSerial = loaders.nextSerial) ∧
      ∀ ref, UnchangedOrHolding files symbol asked loaders after ref := by
  generalize hanswer : (Except.error error : Except ResolveError LoadedUnit) = answer at h
  -- the induction is on the rules: a boundary opens its search path after its parent has answered
  induction h generalizing error with
  | hostKnown | known => cases hanswer
  | closed => exact ⟨⟨rfl, rfl, rfl⟩, fun _ => .inl rfl⟩
  | hostSearch here _ search | isolated here _ _ _ search =>
    subst hanswer
    obtain ⟨rfl, rfl⟩ := materialize_eq_of_error search
    rw [set_get? here]
    exact ⟨⟨rfl, rfl, rfl⟩, fun _ => .inl rfl⟩
  | excluded here unshut route _ ih =>
    obtain ⟨hrest, hloader⟩ := ih hanswer
    exact ⟨hrest, fun ref => (hloader ref).passed here (.of_excluded unshut route)⟩
  | delegated here unshut route unknown _ _ ih =>
    obtain ⟨hrest, hloader⟩ := ih hanswer
    exact ⟨hrest, fun ref =>
      (hloader ref).passed here (.of_delegated unshut route unknown)⟩
  | unopened here unshut route unknown _ _ ih =>
    obtain ⟨hrest, hloader⟩ := ih rfl
    exact ⟨hrest, fun ref =>
      (hloader ref).passed here (.of_delegated unshut route unknown)⟩
  | fallback here unshut route unknown above opens search ih =>
    subst hanswer
    obtain ⟨rfl, rfl⟩ := materialize_eq_of_error search
    obtain ⟨hrest, hloader⟩ := ih rfl
    rw [← Boundary.holding_eq unshut]
    exact ⟨hrest, fun ref =>
      unchangedOrHolding_set layered here unshut route unknown above opens (hloader ref)⟩

/-- Errors leave no more behind than that. -/
theorem Answers.spares {error : ResolveError} (layered : loaders.Layered)
    (h : Answers files symbol loaders asked (.error error) after) :
    Spares files symbol asked loaders after := by
  obtain ⟨⟨names, nextId, nextSerial⟩, hloader⟩ := h.unchangedOrHolding layered
  refine ⟨names, nextId, nextSerial, fun ref => ?_, fun ref => ?_, hloader⟩
  · obtain hsame | ⟨boundary, opened, needs, -, -, hholds⟩ := hloader ref
    · rw [hsame]
    · rw [hholds, needs.here]
      rfl
  · obtain hsame | ⟨boundary, opened, needs, -, -, hholds⟩ := hloader ref
    · rw [hsame]
    · rw [hholds, needs.here]
      exact congrArg some boundary.isClosed_holding

/-! ### The next request -/

theorem Reaches.lt {loader : Loader} (reaches : Reaches symbol loaders asked ref)
    (here : loaders.get? ref = some loader) : asked < loaders.list.length := by
  induction reaches generalizing loader with
  | asked => exact get?_eq_some_lt here
  | parent _ there _ ih => exact ih there

/-- A boundary that passes a request on asks its parent first, and what it does then leaves all
other loaders alone. Where the parent cannot open or read an archive, that is the answer. -/
theorem Answers.exists_above (layered : loaders.Layered)
    (h : Answers files symbol loaders ref answer after)
    (here : loaders.get? ref = some (.boundary boundary)) (passes : boundary.Passes symbol) :
    ∃ answer' after', Answers files symbol loaders boundary.parent answer' after' ∧
      (∀ other ≠ ref, after.get? other = after'.get? other) ∧
      ∀ error, answer' = .error (.archive error) → answer = .error (.archive error) := by
  have same {found : Boundary} (there : loaders.get? ref = some (.boundary found)) :
      found = boundary := by
    simpa using there.symm.trans here
  -- the rules by which a boundary answers of itself do not apply to one that passes the request on
  cases h with
  | hostKnown there | hostSearch there => cases there.symm.trans here
  | closed there shut =>
    obtain rfl := same there
    have hclosed := passes.unshut
    rw [Boundary.isClosed, shut] at hclosed
    cases hclosed
  | known there _ route known =>
    obtain rfl := same there
    obtain excluded | ⟨-, unknown⟩ := passes.route
    · exact absurd excluded route
    · cases unknown.symm.trans known
  | isolated there _ route =>
    obtain rfl := same there
    obtain excluded | ⟨delegated, -⟩ := passes.route
    · cases excluded.symm.trans route
    · cases delegated.symm.trans route
  | excluded there _ _ above | delegated there _ _ _ above =>
    obtain rfl := same there
    exact ⟨_, _, above, fun _ _ => rfl, fun _ => id⟩
  | unopened there _ _ _ above =>
    obtain rfl := same there
    exact ⟨_, _, above, fun _ _ => rfl, fun _ h => by cases h⟩
  | fallback there _ _ _ above =>
    obtain rfl := same there
    have now := (above.get?_of_lt layered (layered.parent_lt here)).trans here
    exact ⟨_, _, above, fun other hne => (get?_set (get?_eq_some_lt now) _).trans (if_neg hne),
      fun _ h => by cases h⟩

/-- What a request does to a loader that it reaches, and to those above, that loader does when it is
asked itself. -/
theorem Reaches.answers (layered : loaders.Layered) (reaches : Reaches symbol loaders asked ref)
    (h : Answers files symbol loaders asked answer after) :
    ∃ answer' after', Answers files symbol loaders ref answer' after' ∧
      (∀ other ≤ ref, after.get? other = after'.get? other) ∧
      ∀ error, answer' = .error (.archive error) → answer = .error (.archive error) := by
  -- the induction is on the way up; parents stand before the boundaries below them, so that what
  -- these do afterwards is out of sight
  induction reaches with
  | asked => exact ⟨answer, after, h, fun _ _ => rfl, fun _ => id⟩
  | parent _ here passes ih =>
    obtain ⟨answer', after', answers, hsame, herror⟩ := ih
    obtain ⟨answer'', after'', above, hothers, herror'⟩ := answers.exists_above layered here passes
    refine ⟨answer'', after'', above, fun other hle => ?_, fun error h =>
      herror error (herror' error h)⟩
    have hlt := Nat.lt_of_le_of_lt hle (layered.parent_lt here)
    rw [hsame other (Nat.le_of_lt hlt), hothers other (Nat.ne_of_lt hlt)]

/-- A request that needs a search path which is not open yet opens it. If that fails the boundary
is left as it was; otherwise it answers with what it finds there. -/
theorem Needs.answers (layered : loaders.Layered)
    (needs : Needs files symbol loaders asked ref boundary) (unopened : boundary.fallback? = none) :
    (∀ error, openAll files boundary.searchPath = .error error →
      ∃ after, Answers files symbol loaders ref (.error (.archive error)) after ∧
        after.get? ref = some (.boundary boundary)) ∧
    ∀ opened, openAll files boundary.searchPath = .ok opened →
      ∃ after now, Answers files symbol loaders ref (materialize files opened boundary.id
          boundary.registry symbol loaders.nextSerial boundary.cache).1 after ∧
        after.get? ref = some (.boundary now) ∧ now.fallback? = some opened := by
  obtain ⟨sets, unshut⟩ := Boundary.isClosed_eq_false_iff.1 needs.unshut
  have hlt := layered.parent_lt needs.here
  obtain ⟨answer, after, hresolve, above⟩ :=
    layered.answers files symbol (Nat.lt_trans hlt (get?_eq_some_lt needs.here))
  obtain ⟨missing, hmissing⟩ := needs.missing
  rw [hresolve] at hmissing
  obtain rfl : answer = .error (.notFound missing) := by simpa using hmissing
  -- the parent has not touched the boundary, nor taken a number for a unit
  have now := (above.get?_of_lt layered hlt).trans needs.here
  have hopens : boundary.openFallback files sets = openAll files boundary.searchPath :=
    Boundary.openFallback_eq unshut unopened
  refine ⟨fun error hfails => ⟨after, ?_, now⟩, fun opened hopened => ?_⟩
  · exact .unopened needs.here unshut needs.route needs.unknown above (hopens.trans hfails)
  · obtain ⟨answer, cache, serial, search⟩ := exists_search files opened boundary.id
      boundary.registry symbol after.nextSerial boundary.cache
    have hserial : after.nextSerial = loaders.nextSerial := (above.spares layered).nextSerial
    have answers := Answers.fallback needs.here unshut needs.route needs.unknown above
      (hopens.trans hopened) search
    rw [← hserial, search]
    exact ⟨_, _, answers, get?_set_self (get?_eq_some_lt now) _, rfl⟩

/-- A request that does not need the search path of a boundary leaves it as it is. -/
theorem Answers.fallback?_eq (layered : loaders.Layered)
    (h : Answers files symbol loaders asked answer after)
    (here : loaders.get? ref = some (.boundary boundary))
    (unneeded : ¬ Needs files symbol loaders asked ref boundary) :
    ∃ now, after.get? ref = some (.boundary now) ∧ now.fallback? = boundary.fallback? ∧
      now.searchPath = boundary.searchPath := by
  -- by the last rule alone a search path is opened, and the boundary needs it then
  induction h with
  | hostKnown | closed | known => exact ⟨boundary, here, rfl, rfl⟩
  | hostSearch there =>
    refine ⟨boundary, (get?_set (get?_eq_some_lt there) _).trans ?_, rfl, rfl⟩
    rw [if_neg, here]
    rintro rfl
    cases there.symm.trans here
  | @isolated asked found _ _ cache _ there =>
    by_cases hself : ref = asked
    · subst hself
      cases there.symm.trans here
      exact ⟨_, get?_set_self (get?_eq_some_lt there) _, rfl, rfl⟩
    · exact ⟨boundary, (get?_set (get?_eq_some_lt there) _).trans ((if_neg hself).trans here),
        rfl, rfl⟩
  | excluded there unshut route _ ih =>
    exact ih fun needs => unneeded (needs.passed there (.of_excluded unshut route))
  | delegated there unshut route unknown _ _ ih | unopened there unshut route unknown _ _ ih =>
    exact ih fun needs =>
      unneeded (needs.passed there (.of_delegated unshut route unknown))
  | @fallback asked found _ _ _ _ _ _ _ there unshut route unknown above opens search ih =>
    have now := (above.get?_of_lt layered (layered.parent_lt there)).trans there
    by_cases hself : ref = asked
    · subst hself
      cases there.symm.trans here
      exact absurd (needs_of_answers layered there unshut route unknown above) unneeded
    · obtain ⟨now', hnow, hsame⟩ := ih fun needs =>
        unneeded (needs.passed there (.of_delegated unshut route unknown))
      exact ⟨now', (get?_set (get?_eq_some_lt now) _).trans ((if_neg hself).trans hnow), hsame⟩

/-! ### Nothing found -/

/-- Nobody knows a symbol, and nothing is found for it: not in the archives of the host, not in
those of a boundary that isolates it, not by the parent of a boundary that excludes it, and neither
by the parent nor on the search path of a boundary that leaves it to the parent. -/
inductive Misses (files : FileSystem) (symbol : String) (loaders : Loaders) : LoaderRef → Prop
  | host {ref : LoaderRef} {host : Host} (here : loaders.get? ref = some (.host host))
      (unknown : host.cache.find? symbol = none)
      (nothing : findUnit files host.opened symbol = .ok none) : Misses files symbol loaders ref
  | isolated {ref : LoaderRef} {boundary : Boundary} {sets : OpenSets}
      (here : loaders.get? ref = some (.boundary boundary)) (unshut : boundary.sets = some sets)
      (route : boundary.policy.route symbol = .isolated)
      (unknown : boundary.cache.find? symbol = none)
      (nothing : findUnit files sets.isolated symbol = .ok none) : Misses files symbol loaders ref
  | excluded {ref : LoaderRef} {boundary : Boundary} {sets : OpenSets}
      (here : loaders.get? ref = some (.boundary boundary)) (unshut : boundary.sets = some sets)
      (route : boundary.policy.route symbol = .excluded)
      (above : Misses files symbol loaders boundary.parent) : Misses files symbol loaders ref
  | delegated {ref : LoaderRef} {boundary : Boundary} {sets : OpenSets}
      {opened : List OpenArchive} (here : loaders.get? ref = some (.boundary boundary))
      (unshut : boundary.sets = some sets) (route : boundary.policy.route symbol = .delegated)
      (unknown : boundary.cache.find? symbol = none)
      (above : Misses files symbol loaders boundary.parent)
      (opens : boundary.openFallback files sets = .ok opened)
      (nothing : findUnit files opened symbol = .ok none) : Misses files symbol loaders ref

theorem Answers.misses {missing : String}
    (h : Answers files symbol loaders ref (.error (.notFound missing)) after) :
    Misses files symbol loaders ref := by
  generalize hanswer : (Except.error (.notFound missing) : Except ResolveError LoadedUnit) = answer
    at h
  induction h generalizing missing with
  | hostKnown | closed | known | unopened => cases hanswer
  | hostSearch here unknown search =>
    subst hanswer
    exact .host here unknown (nothing_of_materialize search)
  | isolated here unshut route unknown search =>
    subst hanswer
    exact .isolated here unshut route unknown (nothing_of_materialize search)
  | excluded here unshut route _ ih => exact .excluded here unshut route (ih hanswer)
  | delegated _ _ _ _ _ answered => exact absurd hanswer.symm (answered missing)
  | fallback here unshut route unknown _ opens search ih =>
    subst hanswer
    exact .delegated here unshut route unknown (ih rfl) opens (nothing_of_materialize search)

theorem Misses.answers (misses : Misses files symbol loaders ref) :
    ∃ after, Answers files symbol loaders ref (.error (.notFound symbol)) after := by
  induction misses with
  | host here unknown nothing =>
    exact ⟨_, .hostSearch here unknown (materialize_of_nothing nothing)⟩
  | isolated here unshut route unknown nothing =>
    exact ⟨_, .isolated here unshut route unknown (materialize_of_nothing nothing)⟩
  | excluded here unshut route _ ih =>
    obtain ⟨after, answers⟩ := ih
    exact ⟨after, .excluded here unshut route answers⟩
  | delegated here unshut route unknown _ opens nothing ih =>
    obtain ⟨after, answers⟩ := ih
    exact ⟨_, .fallback here unshut route unknown answers opens (materialize_of_nothing nothing)⟩

/-- A loader answers that there is no such unit if and only if nothing is found now. -/
theorem notFound_iff_misses (layered : loaders.Layered) (href : ref < loaders.list.length) :
    (∃ missing, (loaders.resolve files symbol ref).1 = .done (.error (.notFound missing))) ↔
      Misses files symbol loaders ref := by
  constructor
  · rintro ⟨missing, hmissing⟩
    obtain ⟨answer, after, hresolve, answers⟩ := layered.answers files symbol href
    rw [hresolve] at hmissing
    obtain rfl : answer = .error (.notFound missing) := by simpa using hmissing
    exact answers.misses
  · intro misses
    obtain ⟨after, answers⟩ := misses.answers
    exact ⟨symbol, congrArg Prod.fst (answers.resolve_eq layered)⟩

end Loaders

open Loaders

/-! ### Runs -/

namespace System

variable {system : System} {ref asked : LoaderRef} {boundary : Boundary}

/-- A request opens the search path of a boundary as the files are. If that fails, it fails with the
error, and the boundary is left as it was; otherwise the boundary answers with what it finds there,
and holds the search path open. -/
structure OpensAfresh (system : System) (asked : LoaderRef) (symbol : String) (ref : LoaderRef)
    (boundary : Boundary) : Prop where
  fails : ∀ error, openAll system.files boundary.searchPath = .error error →
    (system.resolve asked symbol).1 = .done (.error (.archive error)) ∧
      (system.resolve asked symbol).2.loaders.get? ref = some (.boundary boundary)
  opens : ∀ opened, openAll system.files boundary.searchPath = .ok opened →
    (system.resolve ref symbol).1 = .done (materialize system.files opened boundary.id
        boundary.registry symbol system.loaders.nextSerial boundary.cache).1 ∧
      ∃ now, (system.resolve asked symbol).2.loaders.get? ref = some (.boundary now) ∧
        now.fallback? = some opened

/-- A search path that is needed and not open is opened afresh. -/
theorem opensAfresh (layered : system.loaders.Layered)
    (needs : Needs system.files symbol system.loaders asked ref boundary)
    (unopened : boundary.fallback? = none) : system.OpensAfresh asked symbol ref boundary := by
  obtain ⟨answer, after, hresolve, answers⟩ :=
    layered.answers system.files symbol (needs.reaches.lt needs.here)
  obtain ⟨answer', after', answers', hsame, herror⟩ := needs.reaches.answers layered answers
  obtain ⟨hfails, hopens⟩ := needs.answers layered unopened
  -- the boundary is asked by those below it; as the rules leave no choice, it does then what it does
  -- when it is asked itself
  have hasked : system.resolve asked symbol = (.done answer, { system with loaders := after }) := by
    rw [resolve, hresolve]
  have hunique {other others} (h : Answers system.files symbol system.loaders ref other others) :
      answer' = other ∧ after' = others := by
    simpa using (answers'.resolve_eq layered).symm.trans (h.resolve_eq layered)
  refine ⟨fun error h => ?_, fun opened h => ?_⟩
  · obtain ⟨after'', answers'', hget⟩ := hfails error h
    obtain ⟨hanswer, rfl⟩ := hunique answers''
    rw [hasked, herror error hanswer]
    exact ⟨rfl, (hsame ref (Nat.le_refl ref)).trans hget⟩
  · obtain ⟨after'', now, answers'', hget, hnow⟩ := hopens opened h
    obtain ⟨-, rfl⟩ := hunique answers''
    refine ⟨?_, now, ?_, hnow⟩
    · rw [resolve, answers''.resolve_eq layered]
    · rw [hasked]
      exact (hsame ref (Nat.le_refl ref)).trans hget

/-- The search path of a boundary is needed in none of the requests of a run. -/
def Unneeded (ref : LoaderRef) (operations : List Operation) (system : System) : Prop :=
  ∀ earlier asked symbol later boundary,
    operations = earlier ++ .request asked symbol :: later →
      ¬ Needs (system.run earlier).files symbol (system.run earlier).loaders asked ref boundary

end System

/-- An operation does not open a search path that is not needed. -/
theorem Operation.perform_unopened {system : System} {ref : LoaderRef} {boundary : Boundary}
    (operation : Operation) (layered : system.loaders.Layered)
    (here : system.loaders.get? ref = some (.boundary boundary))
    (unopened : boundary.fallback? = none)
    (unneeded : ∀ asked symbol, operation = .request asked symbol →
      ¬ Needs system.files symbol system.loaders asked ref boundary) :
    ∃ now, (operation.perform system).loaders.get? ref = some (.boundary now) ∧
      now.fallback? = none ∧ now.searchPath = boundary.searchPath := by
  cases operation with
  | host archives registry context =>
    exact ⟨boundary, system.makeHost_get? archives registry context here, unopened, rfl⟩
  | boundary policy parent registry =>
    rw [perform]
    split
    · exact ⟨boundary, system.makeBoundary_get? policy parent registry here, unopened, rfl⟩
    · exact ⟨boundary, here, unopened, rfl⟩
  | request asked symbol =>
    obtain hsame | ⟨answer, answers⟩ := System.resolve_cases layered asked symbol
    · exact ⟨boundary, hsame ▸ here, unopened, rfl⟩
    · obtain ⟨now, hnow, hfallback, hpath⟩ :=
        answers.fallback?_eq layered here (unneeded asked symbol rfl)
      exact ⟨now, hnow, hfallback.trans unopened, hpath⟩
  | close other =>
    by_cases hself : ref = other
    · subst hself
      have hclose : (system.loaders.close ref).get? ref = some (.boundary boundary.close) := by
        rw [get?_close, if_pos rfl, here]
        rfl
      exact ⟨boundary.close, hclose, rfl, rfl⟩
    · exact ⟨boundary, get?_close.trans ((if_neg hself).trans here), unopened, rfl⟩
  | changeFiles files => exact ⟨boundary, here, unopened, rfl⟩

/-- A search path stays closed until it is needed. -/
theorem System.run_unopened {ref : LoaderRef} {boundary : Boundary} (operations : List Operation)
    {system : System} (layered : system.loaders.Layered)
    (here : system.loaders.get? ref = some (.boundary boundary))
    (unopened : boundary.fallback? = none) (unneeded : system.Unneeded ref operations) :
    ∃ now, (system.run operations).loaders.get? ref = some (.boundary now) ∧
      now.fallback? = none ∧ now.searchPath = boundary.searchPath := by
  induction operations generalizing system boundary with
  | nil => exact ⟨boundary, here, unopened, rfl⟩
  | cons operation operations ih =>
    obtain ⟨now, hnow, hfallback, hpath⟩ := operation.perform_unopened layered here unopened
      fun asked symbol h => unneeded [] asked symbol operations boundary (h ▸ rfl)
    have layered' := operation.perform_layered layered
    obtain ⟨last, hlast, hfallback', hpath'⟩ := ih layered' hnow hfallback
      fun earlier asked symbol later other h =>
        unneeded (operation :: earlier) asked symbol later other (h ▸ rfl)
    exact ⟨last, hlast, hfallback', hpath'.trans hpath⟩

/-- A request that fails leaves behind no more than search paths that are open. -/
theorem System.resolve_spares {system after : System} {asked : LoaderRef} {error : ResolveError}
    (layered : system.loaders.Layered)
    (failed : system.resolve asked symbol = (.done (.error error), after)) :
    after = { system with loaders := after.loaders } ∧
      system.loaders.Spares system.files symbol asked after.loaders := by
  by_cases href : asked < system.loaders.list.length
  · obtain ⟨answer, others, hresolve, answers⟩ := layered.answers system.files symbol href
    rw [resolve, hresolve] at failed
    cases failed
    exact ⟨rfl, answers.spares layered⟩
  · rw [resolve, Loaders.resolve, get?_eq_none href] at failed
    cases failed
    exact ⟨rfl, rfl, rfl, rfl, fun _ => rfl, fun _ => rfl, fun _ => .inl rfl⟩

/-- A boundary whose search path cannot be opened is spared. -/
theorem Loaders.Spares.get?_of_refused {before after : Loaders} {asked ref : LoaderRef}
    {boundary : Boundary} (spares : before.Spares files symbol asked after)
    (here : before.get? ref = some (.boundary boundary)) {refused : ArchiveError}
    (fails : openAll files boundary.searchPath = .error refused) :
    after.get? ref = some (.boundary boundary) := by
  obtain hsame | ⟨needing, opened, needs, -, opens, -⟩ := spares.loader ref
  · exact hsame.trans here
  · obtain rfl : needing = boundary := by simpa using needs.here.symm.trans here
    cases opens.symm.trans fails

/-- Requests that fail, at any time and on any chain of boundaries over a host. All loaders keep
what they kept before, and those are closed that were closed before; all that may have changed is
that boundaries hold their search paths open now, which the request needed and which could be opened
as a whole. A boundary whose search path could not be opened is as it was before. Whatever is done
then, the next request that needs its search path opens it afresh. At no time does a loader answer
that there is no such unit unless nothing is found in the files as they are then. -/
theorem System.run_failed {start before after : System} (empty : start.loaders.list = [])
    {operations : List Operation} (reached : start.run operations = before) {asked : LoaderRef}
    {error : ResolveError} (failed : before.resolve asked symbol = (.done (.error error), after)) :
    after = { before with loaders := after.loaders } ∧
    before.loaders.Spares before.files symbol asked after.loaders ∧
    (∀ ref boundary, Needs before.files symbol before.loaders asked ref boundary →
      boundary.fallback? = none →
      (∃ refused, openAll before.files boundary.searchPath = .error refused) →
        after.loaders.get? ref = some (.boundary boundary) ∧
        ∀ later, after.Unneeded ref later → ∀ asked' symbol' now,
          Needs (after.run later).files symbol' (after.run later).loaders asked' ref now →
            now.searchPath = boundary.searchPath ∧
            (after.run later).OpensAfresh asked' symbol' ref now) ∧
    ∀ later symbol' ref, ref < (after.run later).loaders.list.length →
      ((∃ missing, ((after.run later).resolve ref symbol').1 =
          .done (.error (.notFound missing))) ↔
        Misses (after.run later).files symbol' (after.run later).loaders ref) := by
  subst reached
  have layered := System.run_layered operations (layered_nil empty)
  obtain ⟨hafter, spares⟩ := System.resolve_spares layered failed
  have layered' : after.loaders.Layered := by
    have hframe := System.resolve_frame layered asked symbol
    rw [failed] at hframe
    exact layered.of_frame hframe
  refine ⟨hafter, spares, ?_, fun later symbol' ref href => ?_⟩
  · rintro ref boundary needs unopened ⟨refused, fails⟩
    have here := spares.get?_of_refused needs.here fails
    refine ⟨here, fun later unneeded asked' symbol' now needs' => ?_⟩
    obtain ⟨now', here', unopened', hpath⟩ :=
      System.run_unopened later layered' here unopened unneeded
    obtain rfl : now' = now := by simpa using here'.symm.trans needs'.here
    exact ⟨hpath, System.opensAfresh (System.run_layered later layered') needs' unopened'⟩
  · exact notFound_iff_misses (System.run_layered later layered') href

/-- The boundary that leaves all names to a host on a directory. -/
def lowerBoundary : Boundary where
  id := ⟨2⟩
  policy := {}
  parent := 0
  parentId := ⟨1⟩
  searchPath := [.directory "lib"]
  sets := some { isolated := [] }
  registry := .empty
  context := 1

/-- It stands below the host, and the directory is gone. -/
def directoryGone : System :=
  System.run (hostAndBoundary ++ [.changeFiles .empty]) { files := oneUnit }

theorem get?_directoryGone : directoryGone.loaders.get? 1 = some (.boundary lowerBoundary) := by
  with_unfolding_all rfl

/-- While the directory is gone its search path cannot be opened, and when it is back the next
request opens it. -/
theorem System.run_failed_reopened : ∃ after,
    directoryGone.resolve 1 "A" = (.done (.error (.archive (.missing "lib"))), after) ∧
      after.loaders.get? 1 = some (.boundary lowerBoundary) ∧
      ∃ now, ((after.run [.changeFiles oneUnit]).resolve 1 "B").2.loaders.get? 1 =
        some (.boundary now) ∧ now.fallback? = some [.directory "lib"] := by
  have failed : directoryGone.resolve 1 "A" =
      (.done (.error (.archive (.missing "lib"))), (directoryGone.resolve 1 "A").2) :=
    Prod.ext (eq_of_errorOf? (by decide +kernel)) rfl
  obtain ⟨-, -, hagain, -⟩ := System.run_failed rfl rfl failed
  have needs : Needs directoryGone.files "A" directoryGone.loaders 1 1 lowerBoundary :=
    { reaches := .asked, here := get?_directoryGone, unshut := rfl, route := by decide
      unknown := rfl, missing := ⟨"A", eq_of_errorOf? (by decide +kernel)⟩ }
  have fails : openAll directoryGone.files lowerBoundary.searchPath = .error (.missing "lib") := by
    with_unfolding_all rfl
  obtain ⟨here, again⟩ := hagain 1 lowerBoundary needs rfl ⟨_, fails⟩
  have unneeded : (directoryGone.resolve 1 "A").2.Unneeded 1 [.changeFiles oneUnit] := by
    intro earlier asked symbol later boundary h
    have hrequest : Operation.request asked symbol ∈ [Operation.changeFiles oneUnit] :=
      h ▸ List.mem_append_right _ List.mem_cons_self
    cases List.mem_singleton.1 hrequest
  have needs' : Needs oneUnit "B" (directoryGone.resolve 1 "A").2.loaders 1 1 lowerBoundary :=
    { reaches := .asked, here, unshut := rfl, route := by decide
      unknown := rfl, missing := ⟨"B", eq_of_errorOf? (by decide +kernel)⟩ }
  obtain ⟨-, opens⟩ := again [.changeFiles oneUnit] unneeded 1 "B" lowerBoundary needs'
  exact ⟨_, failed, here, (opens.opens [.directory "lib"] rfl).2⟩

end Isolation
