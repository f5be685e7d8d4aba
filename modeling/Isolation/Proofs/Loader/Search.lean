import Isolation.Proofs.Archive.Open
import Isolation.Proofs.Loader.Run

/-!
# What happens to a boundary

Requests change a boundary in one way only: it searches archives for a symbol that it does not know.
Apart from that it is built and closed. What all three preserve is true of the boundary in every run.

## Main definitions

* `Boundary.Reads` — the archives that a boundary reads for a symbol
* `Boundary.Searches` — a boundary before and after a search

## Main results

* `Loaders.Answers.searches` — what a request does to a boundary
* `Operation.perform_boundary` — what an operation does to it
* `System.run_boundaries`, `System.run_boundary` — what is true of all boundaries, or of one
-/

namespace Isolation

variable {files : FileSystem} {symbol : String}

namespace Boundary

/-- The archives that a boundary reads for a symbol, and the archives that it holds open from then on:
its own ones if it isolates the symbol, and all on its search path if it leaves the symbol to its
parent. -/
inductive Reads (files : FileSystem) (symbol : String) (boundary : Boundary) :
    List OpenArchive → OpenSets → Prop
  | isolated {sets} (unshut : boundary.sets = some sets)
      (route : boundary.policy.route symbol = .isolated) :
      Reads files symbol boundary sets.isolated sets
  | fallback {sets opened} (unshut : boundary.sets = some sets)
      (route : boundary.policy.route symbol = .delegated)
      (opens : boundary.openFallback files sets = .ok opened) :
      Reads files symbol boundary opened { sets with fallback := some opened }

/-- A boundary before and after it searched archives for a symbol that it did not know. -/
inductive Searches (files : FileSystem) (symbol : String) (old : Boundary) : Boundary → Prop
  | mk {archives sets serial answer cache serial'} (reads : old.Reads files symbol archives sets)
      (unknown : old.cache.find? symbol = none)
      (search : materialize files archives old.id old.registry symbol serial old.cache =
        (answer, cache, serial')) :
      Searches files symbol old { old with sets := some sets, cache }

variable {old new boundary : Boundary} {archives : List OpenArchive} {sets : OpenSets}

theorem Reads.not_closed (reads : boundary.Reads files symbol archives sets) :
    boundary.isClosed = false := by
  cases reads with
  | isolated unshut | fallback unshut => exact not_closed unshut

theorem Reads.route_ne_excluded (reads : boundary.Reads files symbol archives sets) :
    boundary.policy.route symbol ≠ .excluded := by
  cases reads with
  | isolated _ route | fallback _ route =>
    rw [route]
    nofun

end Boundary

/-- What is kept after a search was kept before, or it was found. -/
theorem kept_of_search {archives : List OpenArchive} {id : LoaderId} {registry : Registry}
    {serial serial' : Nat} {cache cache' : StringMap LoadedUnit}
    {answer : Except ResolveError LoadedUnit} {other : String} {unit : LoadedUnit}
    (search : materialize files archives id registry symbol serial cache =
      (answer, cache', serial')) (kept : cache'.find? other = some unit) :
    cache.find? other = some unit ∨
      other = symbol ∧ ∃ located, findUnit files archives symbol = .ok (some located) ∧
        unit = .ofLocated serial symbol id located registry := by
  obtain ⟨error, -, h⟩ | ⟨-, h⟩ | ⟨located, hfound, h⟩ :=
    materialize_cases files archives id registry symbol serial cache
  · cases h.symm.trans search
    exact .inl kept
  · cases h.symm.trans search
    exact .inl kept
  · cases h.symm.trans search
    rw [StringMap.find?_insert] at kept
    split at kept
    · next hother =>
      cases kept
      exact .inr ⟨hother, located, hfound, rfl⟩
    · exact .inl kept

/-- Only open boundaries search. -/
theorem Boundary.Searches.not_closed {old new : Boundary} (searches : old.Searches files symbol new) :
    old.isClosed = false := by
  cases searches with
  | mk reads => exact reads.not_closed

/-- What a boundary keeps is not lost by a search. -/
theorem Boundary.Searches.kept {old new : Boundary} {other : String} {unit : LoadedUnit}
    (searches : old.Searches files symbol new) (kept : old.cache.find? other = some unit) :
    new.cache.find? other = some unit := by
  obtain @⟨archives, sets, serial, answer, cache, serial', reads, unknown, search⟩ := searches
  obtain ⟨_, -, rfl, -⟩ | ⟨unit, -, rfl, -⟩ := materialize_eq search
  · exact kept
  · rw [StringMap.find?_insert, if_neg, kept]
    rintro rfl
    cases unknown.symm.trans kept

namespace Loaders

variable {loaders after : Loaders} {ref other : LoaderRef} {new : Boundary}
  {answer : Except ResolveError LoadedUnit}

/-- A request leaves a boundary as it is, or makes it search. -/
theorem Answers.searches (layered : loaders.Layered)
    (h : Answers files symbol loaders ref answer after)
    (here : after.get? other = some (.boundary new)) :
    loaders.get? other = some (.boundary new) ∨
      ∃ old, loaders.get? other = some (.boundary old) ∧ old.Searches files symbol new := by
  -- the induction is on the rules: but for the searches they leave all boundaries to the parent
  induction h with
  | hostKnown | closed | known => exact .inl here
  | excluded _ _ _ _ ih => exact ih here
  | delegated _ _ _ _ _ _ ih => exact ih here
  | unopened _ _ _ _ _ _ ih => exact ih here
  | hostSearch host unknown search =>
    have here := (get?_set (get?_eq_some_lt host) _).symm.trans here
    split at here
    · cases here
    · exact .inl here
  | @isolated ref boundary sets answer cache serial asked unshut route unknown search =>
    have here := (get?_set (get?_eq_some_lt asked) _).symm.trans here
    split at here
    · next hother =>
      cases here
      refine .inr ⟨boundary, hother ▸ asked, ?_⟩
      rw [unshut]
      exact .mk (.isolated unshut route) unknown search
    · exact .inl here
  | @fallback ref boundary sets missing after opened answer cache serial there unshut route unknown
      asked opens search ih =>
    have now := (asked.get?_of_lt layered (layered.parent_lt there)).trans there
    have here := (get?_set (get?_eq_some_lt now) _).symm.trans here
    split at here
    · next hother =>
      cases here
      exact .inr ⟨boundary, hother ▸ there, .mk (.fallback unshut route opens) unknown search⟩
    · exact ih here

/-- Closing leaves a boundary as it is, or it closes it. -/
theorem boundary_of_close (here : (loaders.close other).get? ref = some (.boundary new)) :
    ∃ old, loaders.get? ref = some (.boundary old) ∧
      (other ≠ ref ∧ new = old ∨ other = ref ∧ new = old.close) := by
  rw [get?_close] at here
  split at here
  · next href =>
    obtain ⟨loader, hloader, hclose⟩ := Option.map_eq_some_iff.1 here
    cases loader with
    | host | relay => cases hclose
    | boundary old =>
      cases hclose
      exact ⟨old, href ▸ hloader, .inr ⟨href.symm, rfl⟩⟩
  · next href => exact ⟨new, here, .inl ⟨Ne.symm href, rfl⟩⟩

end Loaders

open Loaders

variable {system : System} {operations : List Operation} {ref : LoaderRef} {P : Boundary → Prop}

/-- A boundary that is there after an operation has been built by it, or it was there before and was
left as it was, searched, or was closed. -/
theorem Operation.perform_boundary (operation : Operation) {new : Boundary}
    (layered : system.loaders.Layered)
    (here : (operation.perform system).loaders.get? ref = some (.boundary new)) :
    system.loaders.list.length = ref ∧ Built system.files system.loaders (.boundary new) ∨
      ∃ old, system.loaders.get? ref = some (.boundary old) ∧
        (new = old ∨ (∃ symbol, old.Searches system.files symbol new) ∨
          operation = .close ref ∧ new = old.close) := by
  by_cases h : operation.quiet = true
  · have step := (perform_step h layered).2
    generalize (operation.perform system).loaders = after at here step
    cases step with
    | idle le => exact .inr ⟨new, here, .inl rfl⟩
    | built built =>
      rw [get?_extend] at here
      split at here
      · next href =>
        cases here
        exact .inl ⟨href.symm, built⟩
      · exact .inr ⟨new, here, .inl rfl⟩
    | asked answers =>
      obtain here | ⟨old, here, searches⟩ := answers.searches layered here
      · exact .inr ⟨new, here, .inl rfl⟩
      · exact .inr ⟨old, here, .inr (.inl ⟨_, searches⟩)⟩
  · cases operation with
    | host | boundary | request => exact absurd rfl h
    | changeFiles files => exact .inr ⟨new, here, .inl rfl⟩
    | close other =>
      obtain ⟨old, hold, ⟨-, rfl⟩ | ⟨rfl, rfl⟩⟩ := boundary_of_close here
      · exact .inr ⟨_, hold, .inl rfl⟩
      · exact .inr ⟨old, hold, .inr (.inr ⟨rfl, rfl⟩)⟩

/-- What searching and closing preserve is true of a boundary for good. -/
theorem System.run_boundary (layered : system.loaders.Layered)
    (taken : ref < system.loaders.list.length)
    (start : ∀ boundary, system.loaders.get? ref = some (.boundary boundary) → P boundary)
    (searches : ∀ {files symbol old new}, Boundary.Searches files symbol old new → P old → P new)
    (close : ∀ {boundary}, P boundary → P boundary.close) :
    ∀ boundary, (system.run operations).loaders.get? ref = some (.boundary boundary) →
      P boundary := by
  refine (run_invariant (P := fun system => system.loaders.Layered ∧
    ref < system.loaders.list.length ∧
      ∀ boundary, system.loaders.get? ref = some (.boundary boundary) → P boundary)
    ⟨layered, taken, start⟩ fun operation _ system h => ?_).2.2
  obtain ⟨layered, taken, holds⟩ := h
  refine ⟨operation.perform_layered layered,
    Nat.lt_of_lt_of_le taken (operation.length_le_perform layered), fun new here => ?_⟩
  obtain ⟨rfl, -⟩ | ⟨old, hold, rfl | ⟨symbol, searched⟩ | ⟨-, rfl⟩⟩ :=
    operation.perform_boundary layered here
  · exact absurd taken (Nat.lt_irrefl _)
  · exact holds _ hold
  · exact searches searched (holds old hold)
  · exact close (holds old hold)

/-- What building, searching and closing preserve stays true of all boundaries. -/
theorem Operation.perform_boundaries (operation : Operation) (layered : system.loaders.Layered)
    (start : ∀ ref boundary, system.loaders.get? ref = some (.boundary boundary) → P boundary)
    (built : ∀ {files loaders boundary}, Built files loaders (.boundary boundary) → P boundary)
    (searches : ∀ {files symbol old new}, Boundary.Searches files symbol old new → P old → P new)
    (close : ∀ {boundary}, P boundary → P boundary.close) :
    ∀ ref boundary, (operation.perform system).loaders.get? ref = some (.boundary boundary) →
      P boundary := by
  intro ref new here
  obtain ⟨-, new⟩ | ⟨old, hold, rfl | ⟨symbol, searched⟩ | ⟨-, rfl⟩⟩ :=
    operation.perform_boundary layered here
  · exact built new
  · exact start ref _ hold
  · exact searches searched (start ref old hold)
  · exact close (start ref old hold)

theorem System.run_boundaries (layered : system.loaders.Layered)
    (start : ∀ ref boundary, system.loaders.get? ref = some (.boundary boundary) → P boundary)
    (built : ∀ {files loaders boundary}, Built files loaders (.boundary boundary) → P boundary)
    (searches : ∀ {files symbol old new}, Boundary.Searches files symbol old new → P old → P new)
    (close : ∀ {boundary}, P boundary → P boundary.close) :
    ∀ ref boundary, (system.run operations).loaders.get? ref = some (.boundary boundary) →
      P boundary :=
  (run_invariant (P := fun system => system.loaders.Layered ∧
      ∀ ref boundary, system.loaders.get? ref = some (.boundary boundary) → P boundary)
    ⟨layered, start⟩ fun operation _ _ h =>
      ⟨operation.perform_layered h.1,
        operation.perform_boundaries h.1 h.2 built searches close⟩).2

end Isolation
