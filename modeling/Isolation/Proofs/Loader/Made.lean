import Isolation.Proofs.Loader.Answers

/-!
# Made units

A request makes at most one unit, which is then its answer: the unit gets the next serial number and
the number of the loader that makes it, and is kept under the name it was asked for. Whatever is
answered is kept by some loader from then on.

## Main definitions

* `Loaders.Makes` — a loader that has to make a unit itself

## Main results

* `Loaders.Answers.made?_eq_or_makes` — what a request makes
* `Loaders.Answers.exists_made?` — answered units are kept
-/

namespace Isolation

/-- A search in opened archives fails and changes nothing, or it makes a unit. -/
theorem materialize_eq {files : FileSystem} {archives : List OpenArchive} {id : LoaderId}
    {registry : Registry} {symbol : String} {serial serial' : Nat}
    {cache cache' : StringMap LoadedUnit} {answer : Except ResolveError LoadedUnit}
    (search : materialize files archives id registry symbol serial cache =
      (answer, cache', serial')) :
    (∃ error, answer = .error error ∧ cache' = cache ∧ serial' = serial) ∨
      ∃ unit, answer = .ok unit ∧ cache' = cache.insert symbol unit ∧ serial' = serial + 1 ∧
        unit.serial = serial ∧ unit.loader = id := by
  obtain ⟨error, -, h⟩ | ⟨-, h⟩ | ⟨located, -, h⟩ :=
    materialize_cases files archives id registry symbol serial cache
  · obtain ⟨rfl, rfl, rfl⟩ :
        .error (.archive error) = answer ∧ cache = cache' ∧ serial = serial' := by
      simpa only [h, Prod.mk.injEq] using search
    exact .inl ⟨_, rfl, rfl, rfl⟩
  · obtain ⟨rfl, rfl, rfl⟩ :
        .error (.notFound symbol) = answer ∧ cache = cache' ∧ serial = serial' := by
      simpa only [h, Prod.mk.injEq] using search
    exact .inl ⟨_, rfl, rfl, rfl⟩
  · have hparts := h.symm.trans search
    simp only [Prod.mk.injEq] at hparts
    obtain ⟨rfl, rfl, rfl⟩ := hparts
    exact .inr ⟨_, rfl, rfl, rfl, rfl, rfl⟩

section Search

variable {files : FileSystem} {archives : List OpenArchive} {id : LoaderId} {registry : Registry}
  {symbol missing : String} {serial serial' : Nat} {cache cache' : StringMap LoadedUnit}

/-- A search that fails changes nothing. -/
theorem materialize_eq_of_error {error : ResolveError}
    (search : materialize files archives id registry symbol serial cache =
      (.error error, cache', serial')) : cache' = cache ∧ serial' = serial := by
  obtain ⟨_, -, hcache, hserial⟩ | ⟨_, h, -⟩ := materialize_eq search
  · exact ⟨hcache, hserial⟩
  · cases h

/-- Where nothing is found, there is no such unit. -/
theorem materialize_of_nothing (nothing : findUnit files archives symbol = .ok none) :
    materialize files archives id registry symbol serial cache =
      (.error (.notFound symbol), cache, serial) := by
  rw [materialize, nothing]

theorem nothing_of_materialize
    (search : materialize files archives id registry symbol serial cache =
      (.error (.notFound missing), cache', serial')) :
    findUnit files archives symbol = .ok none := by
  obtain ⟨error, -, h⟩ | ⟨nothing, -⟩ | ⟨located, -, h⟩ :=
    materialize_cases files archives id registry symbol serial cache
  · cases h.symm.trans search
  · exact nothing
  · cases h.symm.trans search

end Search

namespace Loaders

variable {files : FileSystem} {symbol name : String} {loaders after : Loaders}
  {ref other maker : LoaderRef} {answer : Except ResolveError LoadedUnit} {unit : LoadedUnit}

theorem made?_of_get? {loader : Loader} (here : loaders.get? ref = some loader) :
    loaders.made? ref name = loader.cache.find? name := by
  rw [made?, here, Option.bind_some]

theorem made?_set (h : ref < loaders.list.length) (loader : Loader) :
    (loaders.set ref loader).made? other name =
      if other = ref then loader.cache.find? name else loaders.made? other name := by
  rw [made?, get?_set h]
  by_cases ho : other = ref
  · rw [if_pos ho, if_pos ho, Option.bind_some]
  · rw [if_neg ho, if_neg ho, made?]

theorem made?_set_self (h : ref < loaders.list.length) (loader : Loader) :
    (loaders.set ref loader).made? ref name = loader.cache.find? name := by
  rw [made?_set h, if_pos rfl]

/-- The loaders after one of them has kept a unit, which it had not before. -/
theorem made?_set_insert {loader : Loader} {cache : StringMap LoadedUnit}
    (here : ref < loaders.list.length) (old : loaders.made? ref = cache.find?)
    (new : loader.cache = cache.insert symbol unit) :
    (loaders.set ref loader).made? other name =
      if other = ref ∧ name = symbol then some unit else loaders.made? other name := by
  rw [made?_set here, new, StringMap.find?_insert]
  by_cases ho : other = ref
  · by_cases hn : name = symbol
    · rw [if_pos ho, if_pos hn, if_pos ⟨ho, hn⟩]
    · rw [if_pos ho, if_neg hn, if_neg (fun h => hn h.2), ho, old]
  · rw [if_neg ho, if_neg (fun h => ho h.1)]

/-- A loader makes a unit that it had not made before: it is the host, or an open boundary that
isolates the name or whose parent does not have it. -/
structure Makes (files : FileSystem) (symbol : String) (loaders : Loaders) (maker : LoaderRef)
    (unit : LoadedUnit) : Prop where
  unknown : loaders.made? maker symbol = none
  serial : unit.serial = loaders.nextSerial
  loader : (loaders.get? maker).map Loader.id = some unit.loader
  free : ∀ {boundary}, loaders.get? maker = some (.boundary boundary) →
    boundary.sets.isSome ∧ (boundary.policy.route symbol = .isolated ∨
      boundary.policy.route symbol = .delegated ∧ ∃ missing after,
        Answers files symbol loaders boundary.parent (.error (.notFound missing)) after)

/-- A request makes nothing, or one unit, which is its answer. -/
theorem Answers.made?_eq_or_makes (layered : loaders.Layered)
    (h : Answers files symbol loaders ref answer after) :
    (after.nextSerial = loaders.nextSerial ∧
        ∀ other name, after.made? other name = loaders.made? other name) ∨
      ∃ maker unit, answer = .ok unit ∧ Makes files symbol loaders maker unit ∧
        after.nextSerial = loaders.nextSerial + 1 ∧
        ∀ other name, after.made? other name =
          if other = maker ∧ name = symbol then some unit else loaders.made? other name := by
  -- the induction is on the rules: only searches make units, and there is at most one that succeeds
  induction h with
  | hostKnown | closed | known => exact .inl ⟨rfl, fun _ _ => rfl⟩
  | excluded _ _ _ _ ih => exact ih
  | delegated _ _ _ _ _ _ ih => exact ih
  | unopened _ _ _ _ _ _ ih =>
    obtain h | ⟨_, _, h, -⟩ := ih
    · exact .inl h
    · cases h
  | @hostSearch ref host answer cache serial here unknown search =>
    have hmade : loaders.made? ref = host.cache.find? := funext fun _ => made?_of_get? here
    obtain ⟨error, rfl, rfl, rfl⟩ | ⟨unit, rfl, rfl, rfl, hserial, hloader⟩ := materialize_eq search
    · refine .inl ⟨rfl, fun other name => ?_⟩
      exact congrArg (made? · other name) (set_get? here)
    · refine .inr ⟨ref, unit, rfl, ⟨?_, hserial, ?_, ?_⟩, rfl, fun other name => ?_⟩
      · rw [hmade, unknown]
      · rw [here, Option.map_some, hloader, Loader.id]
      · intro boundary hboundary
        rw [here] at hboundary
        cases hboundary
      · exact made?_set_insert (get?_eq_some_lt here) hmade rfl
  | @isolated ref boundary sets answer cache serial here unshut route unknown search =>
    have hmade : loaders.made? ref = boundary.cache.find? := funext fun _ => made?_of_get? here
    obtain ⟨error, rfl, rfl, rfl⟩ | ⟨unit, rfl, rfl, rfl, hserial, hloader⟩ := materialize_eq search
    · refine .inl ⟨rfl, fun other name => ?_⟩
      exact congrArg (made? · other name) (set_get? here)
    · refine .inr ⟨ref, unit, rfl, ⟨?_, hserial, ?_, ?_⟩, rfl, fun other name => ?_⟩
      · rw [hmade, unknown]
      · rw [here, Option.map_some, hloader, Loader.id]
      · intro boundary' hboundary
        obtain rfl : boundary = boundary' := by simpa [here] using hboundary
        exact ⟨Option.isSome_of_eq_some unshut, .inl route⟩
      · exact made?_set_insert (get?_eq_some_lt here) hmade rfl
  | @fallback ref boundary sets missing after opened answer cache serial here unshut route unknown
      asked opens search ih =>
    obtain ⟨hserials, hsame⟩ | ⟨_, _, h, -⟩ := ih
    · have now : after.get? ref = some (.boundary boundary) :=
        (asked.get?_of_lt layered (layered.parent_lt here)).trans here
      have hmade : after.made? ref = boundary.cache.find? := funext fun _ => made?_of_get? now
      obtain ⟨error, rfl, rfl, rfl⟩ | ⟨unit, rfl, rfl, rfl, hserial, hloader⟩ :=
        materialize_eq search
      · refine .inl ⟨hserials, fun other name => ?_⟩
        refine (made?_set (get?_eq_some_lt now) _).trans ?_
        split
        · next ho => rw [ho, ← hsame, hmade, Loader.cache]
        · exact hsame other name
      -- the parent made nothing, so the boundary is the maker
      · refine .inr ⟨ref, unit, rfl, ⟨?_, ?_, ?_, ?_⟩, ?_, fun other name => ?_⟩
        · rw [← hsame, hmade, unknown]
        · rw [hserial, hserials]
        · rw [here, Option.map_some, hloader, Loader.id]
        · intro boundary' hboundary
          obtain rfl : boundary = boundary' := by simpa [here] using hboundary
          exact ⟨Option.isSome_of_eq_some unshut, .inr ⟨route, missing, after, asked⟩⟩
        · exact congrArg (· + 1) hserials
        · rw [← hsame]
          exact made?_set_insert (get?_eq_some_lt now) hmade rfl
    · cases h

/-- Some loader keeps what is answered. -/
theorem Answers.exists_made? (layered : loaders.Layered)
    (h : Answers files symbol loaders ref (.ok unit) after) :
    ∃ maker, after.made? maker symbol = some unit := by
  generalize hanswer : (Except.ok unit : Except ResolveError LoadedUnit) = answer at h
  induction h with
  | closed | unopened => cases hanswer
  | hostKnown here known | known here _ _ known =>
    cases hanswer
    exact ⟨_, (made?_of_get? here).trans known⟩
  | excluded _ _ _ _ ih => exact ih hanswer
  | delegated _ _ _ _ _ _ ih => exact ih hanswer
  | hostSearch here _ search | isolated here _ _ _ search =>
    cases hanswer
    obtain ⟨_, h, -⟩ | ⟨unit, h, rfl, -⟩ := materialize_eq search <;> cases h
    refine ⟨_, (made?_set_self (get?_eq_some_lt here) _).trans ?_⟩
    rw [Loader.cache, StringMap.find?_insert, if_pos rfl]
  | fallback here _ _ _ asked _ search =>
    cases hanswer
    have now := (asked.get?_of_lt layered (layered.parent_lt here)).trans here
    obtain ⟨_, h, -⟩ | ⟨unit, h, rfl, -⟩ := materialize_eq search <;> cases h
    refine ⟨_, (made?_set_self (get?_eq_some_lt now) _).trans ?_⟩
    rw [Loader.cache, StringMap.find?_insert, if_pos rfl]

theorem Answers.nextId_eq (h : Answers files symbol loaders ref answer after) :
    after.nextId = loaders.nextId := by
  induction h with
  | hostKnown | closed | known | hostSearch | isolated => rfl
  | excluded _ _ _ _ ih => exact ih
  | delegated _ _ _ _ _ _ ih => exact ih
  | unopened _ _ _ _ _ _ ih => exact ih
  | fallback _ _ _ _ _ _ _ ih => exact ih

end Loaders

end Isolation
