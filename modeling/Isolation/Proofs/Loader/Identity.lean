import Isolation.Proofs.Loader.Run

/-!
# Identity of units

Once a loader has answered with a unit, it answers with this very unit from then on, or says that it
is closed, even if the files change and boundaries below it are closed. A unit tells by which loader
it was made, and no two loaders ever make the same one.

## Main definitions

* `Loaders.Settled` — why a loader can answer with one unit only
* `Loaders.Numbered` — how numbers of loaders and of units are given

## Main results

* `Loaders.Settled.answer_eq` — the answer to a request that is settled
* `System.run_settled` — what is settled stays so
* `System.run_units_stable` — both laws for all runs
-/

namespace Isolation

namespace Loaders

variable {files : FileSystem} {symbol name : String} {loaders after : Loaders}
  {ref other : LoaderRef} {answer : Except ResolveError LoadedUnit} {unit : LoadedUnit}

/-- A loader can answer for a name with one unit only, or say that it is closed: it keeps the unit,
or it is a boundary that is closed or that asks a loader of which the same is true. -/
inductive Settled (loaders : Loaders) (symbol : String) (unit : LoadedUnit) : LoaderRef → Prop
  | host {ref host} (here : loaders.get? ref = some (.host host))
      (known : host.cache.find? symbol = some unit) : Settled loaders symbol unit ref
  | closed {ref boundary} (here : loaders.get? ref = some (.boundary boundary))
      (shut : boundary.sets = none) : Settled loaders symbol unit ref
  | known {ref boundary} (here : loaders.get? ref = some (.boundary boundary))
      (route : boundary.policy.route symbol ≠ .excluded)
      (known : boundary.cache.find? symbol = some unit) : Settled loaders symbol unit ref
  | excluded {ref boundary} (here : loaders.get? ref = some (.boundary boundary))
      (route : boundary.policy.route symbol = .excluded)
      (below : Settled loaders symbol unit boundary.parent) : Settled loaders symbol unit ref
  | delegated {ref boundary} (here : loaders.get? ref = some (.boundary boundary))
      (route : boundary.policy.route symbol = .delegated)
      (unknown : boundary.cache.find? symbol = none)
      (below : Settled loaders symbol unit boundary.parent) : Settled loaders symbol unit ref

theorem Settled.of_host {host : Host} (settled : Settled loaders symbol unit ref)
    (here : loaders.get? ref = some (.host host)) : host.cache.find? symbol = some unit := by
  cases settled with
  | host here' known =>
    cases here.symm.trans here'
    exact known
  | closed here' | known here' | excluded here' | delegated here' => cases here.symm.trans here'

theorem Settled.of_boundary {boundary : Boundary} (settled : Settled loaders symbol unit ref)
    (here : loaders.get? ref = some (.boundary boundary)) :
    boundary.sets = none ∨
      boundary.policy.route symbol ≠ .excluded ∧ boundary.cache.find? symbol = some unit ∨
      boundary.policy.route symbol = .excluded ∧ Settled loaders symbol unit boundary.parent ∨
      boundary.policy.route symbol = .delegated ∧ boundary.cache.find? symbol = none ∧
        Settled loaders symbol unit boundary.parent := by
  cases settled with
  | host here' => cases here.symm.trans here'
  | closed here' shut =>
    cases here.symm.trans here'
    exact .inl shut
  | known here' route known =>
    cases here.symm.trans here'
    exact .inr (.inl ⟨route, known⟩)
  | excluded here' route below =>
    cases here.symm.trans here'
    exact .inr (.inr (.inl ⟨route, below⟩))
  | delegated here' route unknown below =>
    cases here.symm.trans here'
    exact .inr (.inr (.inr ⟨route, unknown, below⟩))

theorem Settled.lt_length (settled : Settled loaders symbol unit ref) :
    ref < loaders.list.length := by
  cases settled with
  | host here | closed here | known here | excluded here | delegated here =>
    exact get?_eq_some_lt here

/-- If the answer is settled, it is the unit, or that a loader is closed. -/
theorem Settled.answer_eq (settled : Settled loaders symbol unit ref)
    (h : Answers files symbol loaders ref answer after) :
    answer = .ok unit ∨ ∃ id, answer = .error (.closed id) := by
  -- a rule that would come to anything else does not fit the way in which the name is settled
  induction h with
  | hostKnown here known =>
    exact .inl (congrArg _ (Option.some.inj (known.symm.trans (settled.of_host here))))
  | hostSearch here unknown => cases unknown.symm.trans (settled.of_host here)
  | closed => exact .inr ⟨_, rfl⟩
  | known here unshut route known =>
    obtain shut | ⟨-, known'⟩ | ⟨route', -⟩ | ⟨-, unknown, -⟩ := settled.of_boundary here
    · cases shut.symm.trans unshut
    · exact .inl (congrArg _ (Option.some.inj (known.symm.trans known')))
    · exact absurd route' route
    · cases known.symm.trans unknown
  | isolated here unshut route unknown =>
    obtain shut | ⟨-, known⟩ | ⟨route', -⟩ | ⟨route', -⟩ := settled.of_boundary here
    · cases shut.symm.trans unshut
    · cases unknown.symm.trans known
    · cases route.symm.trans route'
    · cases route.symm.trans route'
  | excluded here unshut route _ ih =>
    obtain shut | ⟨route', -⟩ | ⟨-, below⟩ | ⟨route', -⟩ := settled.of_boundary here
    · cases shut.symm.trans unshut
    · exact absurd route route'
    · exact ih below
    · cases route.symm.trans route'
  | delegated here unshut route unknown _ _ ih =>
    obtain shut | ⟨-, known⟩ | ⟨route', -⟩ | ⟨-, -, below⟩ := settled.of_boundary here
    · cases shut.symm.trans unshut
    · cases unknown.symm.trans known
    · cases route.symm.trans route'
    · exact ih below
  | unopened here unshut route unknown _ _ ih | fallback here unshut route unknown _ _ _ ih =>
    obtain shut | ⟨-, known⟩ | ⟨route', -⟩ | ⟨-, -, below⟩ := settled.of_boundary here
    · cases shut.symm.trans unshut
    · cases unknown.symm.trans known
    · cases route.symm.trans route'
    -- the parent keeps its answer, so it cannot answer that there is no such unit
    · obtain h | ⟨_, h⟩ := ih below <;> cases h

/-- A loader that answered with a unit is settled from then on. -/
theorem Answers.settled (layered : loaders.Layered)
    (h : Answers files symbol loaders ref (.ok unit) after) : Settled after symbol unit ref := by
  generalize hanswer : (Except.ok unit : Except ResolveError LoadedUnit) = answer at h
  induction h with
  | closed | unopened => cases hanswer
  | hostKnown here known =>
    cases hanswer
    exact .host here known
  | known here _ route known =>
    cases hanswer
    exact .known here route known
  | hostSearch here _ search =>
    cases hanswer
    obtain ⟨_, h, -⟩ | ⟨unit, h, rfl, -⟩ := materialize_eq search <;> cases h
    refine .host (get?_set_self (get?_eq_some_lt here) _) ?_
    rw [StringMap.find?_insert, if_pos rfl]
  | isolated here _ route _ search =>
    cases hanswer
    obtain ⟨_, h, -⟩ | ⟨unit, h, rfl, -⟩ := materialize_eq search <;> cases h
    refine .known (get?_set_self (get?_eq_some_lt here) _) ?_ ?_
    · rw [route]
      nofun
    · rw [StringMap.find?_insert, if_pos rfl]
  | fallback here _ route _ asked _ search =>
    cases hanswer
    -- from now on the boundary has the unit itself, and its parent is not asked again
    have now := (asked.get?_of_lt layered (layered.parent_lt here)).trans here
    obtain ⟨_, h, -⟩ | ⟨unit, h, rfl, -⟩ := materialize_eq search <;> cases h
    refine .known (get?_set_self (get?_eq_some_lt now) _) ?_ ?_
    · rw [route]
      nofun
    · rw [StringMap.find?_insert, if_pos rfl]
  | excluded here _ route asked ih =>
    have now := (asked.get?_of_lt layered (layered.parent_lt here)).trans here
    exact .excluded now route (ih hanswer)
  | delegated here _ route unknown asked _ ih =>
    have now := (asked.get?_of_lt layered (layered.parent_lt here)).trans here
    exact .delegated now route unknown (ih hanswer)

/-- How a loader may change without unsettling an answer. -/
def Preserves (symbol : String) (old new : Loader) : Prop :=
  new.frame = old.frame ∧ new.cache.find? symbol = old.cache.find? symbol ∨
    ∃ boundary, new = .boundary boundary ∧ boundary.sets = none

/-- If no loader that is settled changes in another way, the answer stays settled. -/
theorem Settled.transfer (settled : Settled loaders symbol unit ref)
    (h : ∀ {ref old}, loaders.get? ref = some old → Settled loaders symbol unit ref →
      ∃ new, after.get? ref = some new ∧ Preserves symbol old new) :
    Settled after symbol unit ref := by
  induction settled with
  | host here known =>
    obtain ⟨new, hnew, ⟨hframe, hcache⟩ | ⟨boundary, rfl, shut⟩⟩ := h here (.host here known)
    · obtain ⟨host', rfl⟩ := Loader.exists_host_of_frame hframe
      exact .host hnew (hcache.trans known)
    · exact .closed hnew shut
  | closed here shut =>
    obtain ⟨new, hnew, ⟨hframe, hcache⟩ | ⟨boundary, rfl, shut'⟩⟩ := h here (.closed here shut)
    · obtain ⟨boundary', rfl, -, -, hsets⟩ := Loader.exists_boundary_of_frame hframe
      rw [shut] at hsets
      exact .closed hnew (Option.not_isSome_iff_eq_none.1 (hsets ▸ Bool.false_ne_true))
    · exact .closed hnew shut'
  | known here route known =>
    obtain ⟨new, hnew, ⟨hframe, hcache⟩ | ⟨boundary, rfl, shut⟩⟩ := h here (.known here route known)
    · obtain ⟨boundary', rfl, hpolicy, -, -⟩ := Loader.exists_boundary_of_frame hframe
      exact .known hnew (hpolicy ▸ route) (hcache.trans known)
    · exact .closed hnew shut
  | excluded here route below ih =>
    obtain ⟨new, hnew, ⟨hframe, hcache⟩ | ⟨boundary, rfl, shut⟩⟩ :=
      h here (.excluded here route below)
    · obtain ⟨boundary', rfl, hpolicy, hparent, -⟩ := Loader.exists_boundary_of_frame hframe
      exact .excluded hnew (hpolicy ▸ route) (hparent ▸ ih)
    · exact .closed hnew shut
  | delegated here route unknown below ih =>
    obtain ⟨new, hnew, ⟨hframe, hcache⟩ | ⟨boundary, rfl, shut⟩⟩ :=
      h here (.delegated here route unknown below)
    · obtain ⟨boundary', rfl, hpolicy, hparent, -⟩ := Loader.exists_boundary_of_frame hframe
      exact .delegated hnew (hpolicy ▸ route) (hcache.trans unknown) (hparent ▸ ih)
    · exact .closed hnew shut

/-- Where an answer is settled, no loader makes a unit. -/
theorem Makes.not_settled {new : LoadedUnit} {maker : LoaderRef}
    (makes : Makes files symbol loaders maker new) (unrelayed : loaders.Layered) :
    ¬ Settled loaders symbol unit maker := by
  intro settled
  obtain ⟨loader, here, -⟩ := Option.map_eq_some_iff.1 makes.loader
  have unknown := (made?_of_get? here).symm.trans makes.unknown
  cases loader with
  | relay => exact unrelayed.not_relay here
  | host => cases unknown.symm.trans (settled.of_host here)
  | boundary =>
    obtain ⟨unshut, free⟩ := makes.free here
    obtain shut | ⟨-, known⟩ | ⟨route, -⟩ | ⟨route, -, below⟩ := settled.of_boundary here
    · rw [shut] at unshut
      cases unshut
    · cases unknown.symm.trans known
    · obtain route' | ⟨route', -⟩ := free <;> cases route.symm.trans route'
    · obtain route' | ⟨-, missing, after, asked⟩ := free
      · cases route.symm.trans route'
      · obtain h | ⟨_, h⟩ := below.answer_eq asked <;> cases h

/-- Requests for whatever name leave an answer settled. -/
theorem Settled.answers (layered : loaders.Layered) (settled : Settled loaders symbol unit other)
    (h : Answers files name loaders ref answer after) : Settled after symbol unit other := by
  refine settled.transfer fun {other old} here hsettled => ?_
  obtain ⟨new, hnew, hframe⟩ := exists_of_frame (h.frame_eq layered) here
  refine ⟨new, hnew, .inl ⟨hframe, ?_⟩⟩
  rw [← made?_of_get? hnew, ← made?_of_get? here]
  obtain ⟨-, hsame⟩ | ⟨maker, _, -, makes, -, hmade⟩ := h.made?_eq_or_makes layered
  · exact hsame other symbol
  · rw [hmade, if_neg]
    rintro ⟨rfl, rfl⟩
    exact makes.not_settled layered hsettled

theorem Settled.step (layered : loaders.Layered) (settled : Settled loaders symbol unit ref)
    (h : Step files loaders after) : Settled after symbol unit ref := by
  cases h with
  | idle le => exact settled.transfer fun here _ => ⟨_, here, .inl ⟨rfl, rfl⟩⟩
  | asked answers => exact settled.answers layered answers
  | built new =>
    exact settled.transfer fun here _ => ⟨_, get?_extend_of_some here, .inl ⟨rfl, rfl⟩⟩

/-- Closing a boundary leaves answers settled: the boundary itself is closed from then on. -/
theorem Settled.close (settled : Settled loaders symbol unit ref) :
    Settled (loaders.close other) symbol unit ref := by
  refine settled.transfer fun {ref old} here _ => ?_
  rw [get?_close]
  split
  · next h =>
    rw [← h, here, Option.map_some]
    refine ⟨_, rfl, ?_⟩
    cases old with
    | host | relay => exact .inl ⟨rfl, rfl⟩
    | boundary boundary => exact .inr ⟨_, rfl, rfl⟩
  · exact ⟨old, here, .inl ⟨rfl, rfl⟩⟩

/-! ### Numbers -/

/-- Loaders have numbers of their own, and units the number of the loader that made them; numbers
that are still to be given are higher than all of these. -/
structure Numbered (loaders : Loaders) : Prop where
  id_lt : ∀ {ref loader}, loaders.get? ref = some loader → loader.id.number < loaders.nextId
  id_inj : ∀ {ref other loader loader'}, loaders.get? ref = some loader →
    loaders.get? other = some loader' → loader.id = loader'.id → ref = other
  serial_lt : ∀ {ref name unit}, loaders.made? ref name = some unit →
    unit.serial < loaders.nextSerial
  serial_inj : ∀ {ref other name name' unit unit'}, loaders.made? ref name = some unit →
    loaders.made? other name' = some unit' → unit.serial = unit'.serial → ref = other
  made_by : ∀ {ref name unit}, loaders.made? ref name = some unit →
    (loaders.get? ref).map Loader.id = some unit.loader

/-- What happens to the numbers of loaders and to the units that they keep: loaders keep their
numbers, and a unit that was not kept before has a new number. -/
structure Ages (loaders after : Loaders) : Prop where
  id_eq : ∀ {ref loader}, loaders.get? ref = some loader →
    (after.get? ref).map Loader.id = some loader.id
  serial_le : loaders.nextSerial ≤ after.nextSerial
  made : ∀ {ref name unit}, after.made? ref name = some unit →
    loaders.made? ref name = some unit ∨ loaders.nextSerial ≤ unit.serial

theorem Ages.refl (loaders : Loaders) : loaders.Ages loaders where
  id_eq here := by rw [here, Option.map_some]
  serial_le := Nat.le_refl _
  made h := .inl h

theorem Ages.trans {first second third : Loaders} (h : first.Ages second)
    (h' : second.Ages third) : first.Ages third where
  id_eq here := by
    obtain ⟨loader, here', hid⟩ := Option.map_eq_some_iff.1 (h.id_eq here)
    rw [h'.id_eq here', hid]
  serial_le := Nat.le_trans h.serial_le h'.serial_le
  made hmade := by
    obtain hmade | hle := h'.made hmade
    · exact h.made hmade
    · exact .inr (Nat.le_trans h.serial_le hle)

theorem Ages.step (layered : loaders.Layered) (h : Step files loaders after) :
    loaders.Ages after := by
  cases h with
  | idle le => exact ⟨fun here => (Ages.refl loaders).id_eq here, Nat.le_refl _, .inl⟩
  | built new =>
    refine ⟨fun here => ?_, Nat.le_refl _, fun hmade => .inl ?_⟩
    · rw [get?_extend_of_some here, Option.map_some]
    · rwa [new.made?_extend] at hmade
  | asked answers =>
    have id_eq {ref loader} (here : loaders.get? ref = some loader) :
        (after.get? ref).map Loader.id = some loader.id := by
      obtain ⟨loader', here', hframe⟩ := exists_of_frame (answers.frame_eq layered) here
      rw [here', Option.map_some, Loader.id_of_frame hframe]
    obtain ⟨hserial, hsame⟩ | ⟨maker, new, -, makes, hserial, hmade⟩ :=
      answers.made?_eq_or_makes layered
    · exact ⟨id_eq, Nat.le_of_eq hserial.symm, fun h => .inl ((hsame _ _).symm.trans h)⟩
    · refine ⟨id_eq, hserial ▸ Nat.le_succ _, fun {ref name unit} h => ?_⟩
      rw [hmade] at h
      split at h
      · cases h
        exact .inr (Nat.le_of_eq makes.serial.symm)
      · exact .inl h

theorem id_close : ((loaders.close ref).get? other).map Loader.id =
    (loaders.get? other).map Loader.id := by
  rw [get?_close]
  split
  · next h =>
    rw [← h, Option.map_map]
    cases loaders.get? other with
    | none => rfl
    | some loader => cases loader <;> rfl
  · rfl

/-- A boundary that is closed forgets its units. -/
theorem made?_of_close (h : (loaders.close ref).made? other name = some unit) :
    loaders.made? other name = some unit := by
  rw [made?, get?_close] at h
  split at h
  · next heq =>
    obtain ⟨loader, here, hfind⟩ := Option.bind_eq_some_iff.1 h
    obtain ⟨old, here', rfl⟩ := Option.map_eq_some_iff.1 here
    rw [heq, made?_of_get? here']
    cases old with
    | host | relay => exact hfind
    | boundary => cases hfind
  · exact h

theorem close_counters : (loaders.close ref).nextId = loaders.nextId ∧
    (loaders.close ref).nextSerial = loaders.nextSerial := by
  rw [close]
  split <;> exact ⟨rfl, rfl⟩

theorem Ages.close : loaders.Ages (loaders.close ref) where
  id_eq here := by rw [id_close, here, Option.map_some]
  serial_le := Nat.le_of_eq close_counters.2.symm
  made hmade := .inl (made?_of_close hmade)

theorem numbered_nil (empty : loaders.list = []) : loaders.Numbered := by
  have none_here := get?_nil empty
  have none_made (ref : LoaderRef) (name : String) : loaders.made? ref name = none := by
    rw [made?, none_here, Option.bind_none]
  constructor <;> simp only [none_here, none_made, reduceCtorEq, false_implies, implies_true]

theorem Numbered.extend {loader : Loader} (numbered : loaders.Numbered)
    (new : Built files loaders loader) : (loaders.extend loader).Numbered where
  id_lt {ref found} here := by
    rw [get?_extend] at here
    split at here
    · cases here
      rw [new.id_eq]
      exact Nat.lt_succ_self _
    · exact Nat.lt_succ_of_lt (numbered.id_lt here)
  id_inj {ref other found found'} here here' heq := by
    -- the new loader has a number that no loader had before
    have old_ne {ref old} (here : loaders.get? ref = some old) : old.id ≠ loader.id := by
      intro h
      have hlt := numbered.id_lt here
      rw [h, new.id_eq] at hlt
      exact Nat.lt_irrefl _ hlt
    rw [get?_extend] at here here'
    split at here <;> split at here'
    · next h h' => exact h.trans h'.symm
    · cases here
      exact absurd heq.symm (old_ne here')
    · cases here'
      exact absurd heq (old_ne here)
    · exact numbered.id_inj here here' heq
  serial_lt hmade := numbered.serial_lt (new.made?_extend ▸ hmade)
  serial_inj hmade hmade' heq :=
    numbered.serial_inj (new.made?_extend ▸ hmade) (new.made?_extend ▸ hmade') heq
  made_by {ref name unit} hmade := by
    rw [new.made?_extend] at hmade
    obtain ⟨found, here, hid⟩ := Option.map_eq_some_iff.1 (numbered.made_by hmade)
    rw [get?_extend_of_some here, Option.map_some, hid]

/-- Requests change no number of a loader. -/
theorem Answers.map_id_get? (layered : loaders.Layered)
    (h : Answers files symbol loaders ref answer after) (other : LoaderRef) :
    (after.get? other).map Loader.id = (loaders.get? other).map Loader.id := by
  cases here : loaders.get? other with
  | none =>
    have hframe := frame_get? (h.frame_eq layered) other
    rw [here, Option.map_none, Option.map_eq_none_iff] at hframe
    rw [hframe]
  | some loader => rw [(Ages.step layered (.asked h)).id_eq here, Option.map_some]

theorem Numbered.answers (layered : loaders.Layered) (numbered : loaders.Numbered)
    (h : Answers files symbol loaders ref answer after) : after.Numbered := by
  have ids := h.map_id_get? layered
  have old {ref : LoaderRef} {found : Loader} (here : after.get? ref = some found) :
      ∃ found', loaders.get? ref = some found' ∧ found'.id = found.id := by
    have hid := ids ref
    rw [here, Option.map_some] at hid
    exact Option.map_eq_some_iff.1 hid.symm
  have id_lt {ref found} (here : after.get? ref = some found) :
      found.id.number < after.nextId := by
    obtain ⟨found', here', hid⟩ := old here
    rw [h.nextId_eq, ← hid]
    exact numbered.id_lt here'
  have id_inj {ref other found found'} (here : after.get? ref = some found)
      (here' : after.get? other = some found') (heq : found.id = found'.id) : ref = other := by
    obtain ⟨_, hold, hid⟩ := old here
    obtain ⟨_, hold', hid'⟩ := old here'
    exact numbered.id_inj hold hold' (hid.trans (heq.trans hid'.symm))
  obtain ⟨hserial, hsame⟩ | ⟨maker, new, -, makes, hserial, hmade⟩ := h.made?_eq_or_makes layered
  · refine ⟨id_lt, id_inj, fun hmade => ?_, fun hmade hmade' => ?_, fun hmade => ?_⟩
    · rw [hsame] at hmade
      exact hserial ▸ numbered.serial_lt hmade
    · rw [hsame] at hmade hmade'
      exact numbered.serial_inj hmade hmade'
    · rw [hsame] at hmade
      rw [ids, numbered.made_by hmade]
  · refine ⟨id_lt, id_inj, fun {ref name unit} hunit => ?_,
      fun {ref other name name' unit unit'} hunit hunit' heq => ?_, fun {ref name unit} hunit => ?_⟩
    · rw [hserial]
      rw [hmade] at hunit
      split at hunit
      · cases hunit
        exact makes.serial ▸ Nat.lt_succ_self _
      · exact Nat.lt_succ_of_lt (numbered.serial_lt hunit)
    -- two units that are there now: both old, both new, or one of each with a larger number
    · have old_ne {ref name unit} (hunit : loaders.made? ref name = some unit) :
          unit.serial ≠ new.serial :=
        makes.serial ▸ Nat.ne_of_lt (numbered.serial_lt hunit)
      rw [hmade] at hunit hunit'
      split at hunit <;> split at hunit'
      · next h h' => exact h.1.trans h'.1.symm
      · cases hunit
        exact absurd heq.symm (old_ne hunit')
      · cases hunit'
        exact absurd heq (old_ne hunit)
      · exact numbered.serial_inj hunit hunit' heq
    · rw [ids]
      rw [hmade] at hunit
      split at hunit
      · next h =>
        cases hunit
        rw [h.1, makes.loader]
      · exact numbered.made_by hunit

theorem Numbered.step (layered : loaders.Layered) (numbered : loaders.Numbered)
    (h : Step files loaders after) : after.Numbered := by
  cases h with
  | idle le =>
    exact ⟨fun here => Nat.lt_of_lt_of_le (numbered.id_lt here) le, numbered.id_inj,
      numbered.serial_lt, numbered.serial_inj, numbered.made_by⟩
  | built new => exact numbered.extend new
  | asked answers => exact numbered.answers layered answers

theorem Numbered.close (numbered : loaders.Numbered) : (loaders.close ref).Numbered := by
  have old {other loader} (here : (loaders.close ref).get? other = some loader) :
      ∃ loader', loaders.get? other = some loader' ∧ loader'.id = loader.id := by
    have hid : ((loaders.close ref).get? other).map Loader.id =
        (loaders.get? other).map Loader.id := id_close
    rw [here, Option.map_some] at hid
    exact Option.map_eq_some_iff.1 hid.symm
  refine ⟨fun here => ?_, fun here here' heq => ?_, fun hmade => ?_, fun hmade hmade' => ?_,
    fun hmade => ?_⟩
  · obtain ⟨loader', here', hid⟩ := old here
    rw [close_counters.1, ← hid]
    exact numbered.id_lt here'
  · obtain ⟨_, hold, hid⟩ := old here
    obtain ⟨_, hold', hid'⟩ := old here'
    exact numbered.id_inj hold hold' (hid.trans (heq.trans hid'.symm))
  · rw [close_counters.2]
    exact numbered.serial_lt (made?_of_close hmade)
  · exact numbered.serial_inj (made?_of_close hmade) (made?_of_close hmade')
  · rw [id_close, numbered.made_by (made?_of_close hmade)]

end Loaders

open Loaders

variable {operations : List Operation} {system : System}

theorem System.run_settled {symbol : String} {unit : LoadedUnit} {ref : LoaderRef}
    (layered : system.loaders.Layered) (settled : system.loaders.Settled symbol unit ref) :
    (system.run operations).loaders.Settled symbol unit ref :=
  run_loaders (P := fun loaders => loaders.Settled symbol unit ref) layered settled
    (fun layered settled step => settled.step layered step) fun _ settled => settled.close

theorem System.run_ages (layered : system.loaders.Layered) :
    system.loaders.Ages (system.run operations).loaders :=
  run_loaders (P := system.loaders.Ages) layered (.refl _)
    (fun layered ages step => ages.trans (.step layered step)) fun _ ages => ages.trans .close

theorem System.run_numbered (layered : system.loaders.Layered)
    (numbered : system.loaders.Numbered) : (system.run operations).loaders.Numbered :=
  run_loaders (P := Numbered) layered numbered
    (fun layered numbered step => numbered.step layered step) fun _ numbered => numbered.close

theorem System.answers_of_resolve {symbol : String} {unit : LoadedUnit} {ref : LoaderRef}
    (layered : system.loaders.Layered)
    (h : (system.resolve ref symbol).1 = .done (.ok unit)) :
    Answers system.files symbol system.loaders ref (.ok unit)
      (system.resolve ref symbol).2.loaders := by
  by_cases href : ref < system.loaders.list.length
  · obtain ⟨answer, after, hresolve, answers⟩ := layered.answers system.files symbol href
    simp only [System.resolve, hresolve, Attempt.done.injEq] at h ⊢
    exact h ▸ answers
  · rw [System.resolve, Loaders.resolve, get?_eq_none href] at h
    cases h

/-- A loader that answered with a unit answers with it for good, or says that a loader is closed. -/
theorem System.resolve_stable {symbol : String} {unit : LoadedUnit} {ref : LoaderRef}
    (layered : system.loaders.Layered)
    (h : (system.resolve ref symbol).1 = .done (.ok unit)) (later : List Operation) :
    (((system.resolve ref symbol).2.run later).resolve ref symbol).1 = .done (.ok unit) ∨
      ∃ id, (((system.resolve ref symbol).2.run later).resolve ref symbol).1 =
        .done (.error (.closed id)) := by
  have answers := System.answers_of_resolve layered h
  have layered' : (system.resolve ref symbol).2.loaders.Layered :=
    layered.of_frame (answers.frame_eq layered)
  have layered'' := System.run_layered later layered'
  have settled : ((system.resolve ref symbol).2.run later).loaders.Settled symbol unit ref :=
    System.run_settled layered' (answers.settled layered)
  obtain ⟨answer, after, hresolve, answers'⟩ := layered''.answers
    ((system.resolve ref symbol).2.run later).files symbol settled.lt_length
  rw [System.resolve, hresolve]
  obtain rfl | ⟨id, rfl⟩ := settled.answer_eq answers'
  · exact .inl rfl
  · exact .inr ⟨id, rfl⟩

/-- Units that different loaders keep, now or later, are told apart by their serial numbers and by
the numbers of their loaders. -/
theorem System.made_units_differ {ref other : LoaderRef} {name name' : String}
    {unit unit' : LoadedUnit} (layered : system.loaders.Layered)
    (numbered : system.loaders.Numbered) (hmade : system.loaders.made? ref name = some unit)
    (later : List Operation) (hmade' : (system.run later).loaders.made? other name' = some unit')
    (hne : ref ≠ other) : unit.serial ≠ unit'.serial ∧ unit.loader ≠ unit'.loader := by
  have ages : system.loaders.Ages (system.run later).loaders := System.run_ages layered
  have numbered' : (system.run later).loaders.Numbered := System.run_numbered layered numbered
  constructor
  · intro heq
    obtain hold | hle := ages.made hmade'
    · exact hne (numbered.serial_inj hmade hold heq)
    · exact Nat.lt_irrefl _ (Nat.lt_of_lt_of_le (heq ▸ numbered.serial_lt hmade) hle)
  · intro heq
    obtain ⟨loader, here, hid⟩ := Option.map_eq_some_iff.1 (numbered.made_by hmade)
    obtain ⟨loader', here', hid'⟩ := Option.map_eq_some_iff.1 (ages.id_eq here)
    obtain ⟨maker, there, hmaker⟩ := Option.map_eq_some_iff.1 (numbered'.made_by hmade')
    exact hne (numbered'.id_inj here' there (hid'.trans (hid.trans (heq.trans hmaker.symm))))

/-- A unit that is answered is kept from then on by the loader that it names. -/
theorem System.exists_maker {symbol : String} {unit : LoadedUnit} {ref : LoaderRef}
    (layered : system.loaders.Layered) (numbered : system.loaders.Numbered)
    (h : (system.resolve ref symbol).1 = .done (.ok unit)) :
    ∃ maker, (system.resolve ref symbol).2.loaders.made? maker symbol = some unit ∧
      ((system.resolve ref symbol).2.loaders.get? maker).map Loader.id = some unit.loader := by
  have answers := System.answers_of_resolve layered h
  obtain ⟨maker, hmade⟩ := answers.exists_made? layered
  exact ⟨maker, hmade, (numbered.answers layered answers).made_by hmade⟩

/-- Units are the same for good. In every run, a loader that answered with a unit answers with this
very unit from then on, or says that a loader is closed. What it answers with is kept by the loader
that the unit names, and units that are ever kept by different loaders have different serial numbers
and name different loaders. -/
theorem System.run_units_stable {start : System} (empty : start.loaders.list = [])
    (earlier later : List Operation) :
    (∀ ref symbol unit, ((start.run earlier).resolve ref symbol).1 = .done (.ok unit) →
      ((((start.run earlier).resolve ref symbol).2.run later).resolve ref symbol).1 =
          .done (.ok unit) ∨
        ∃ id, ((((start.run earlier).resolve ref symbol).2.run later).resolve ref symbol).1 =
          .done (.error (.closed id))) ∧
    (∀ ref symbol unit, ((start.run earlier).resolve ref symbol).1 = .done (.ok unit) →
      ∃ maker, ((start.run earlier).resolve ref symbol).2.loaders.made? maker symbol = some unit ∧
        (((start.run earlier).resolve ref symbol).2.loaders.get? maker).map Loader.id =
          some unit.loader) ∧
    ∀ ref other name name' unit unit', (start.run earlier).loaders.made? ref name = some unit →
      (start.run (earlier ++ later)).loaders.made? other name' = some unit' → ref ≠ other →
      unit.serial ≠ unit'.serial ∧ unit.loader ≠ unit'.loader := by
  have layered := System.run_layered earlier (layered_nil empty)
  have numbered : (start.run earlier).loaders.Numbered :=
    System.run_numbered (layered_nil empty) (numbered_nil empty)
  refine ⟨fun ref symbol unit h => ?_, fun ref symbol unit h => ?_, ?_⟩
  · exact System.resolve_stable layered h later
  · exact System.exists_maker layered numbered h
  · intro ref other name name' unit unit' hmade hmade'
    rw [System.run_append] at hmade'
    exact System.made_units_differ layered numbered hmade later hmade'

/-- The unit of a boundary stays when its file is gone. -/
theorem System.run_units_stable_without_files :
    ∃ unit, ((System.run hostAndBoundary { files := oneUnit }).resolve 1 "A").1 =
        .done (.ok unit) ∧
      (((((System.run hostAndBoundary { files := oneUnit }).resolve 1 "A").2.run
          [.changeFiles .empty]).resolve 1 "A").1 = .done (.ok unit) ∨
        ∃ id, ((((System.run hostAndBoundary { files := oneUnit }).resolve 1 "A").2.run
          [.changeFiles .empty]).resolve 1 "A").1 = .done (.error (.closed id))) := by
  have hsome : (unitOf?
      ((System.run hostAndBoundary { files := oneUnit }).resolve 1 "A").1).isSome = true := by
    decide +kernel
  obtain ⟨unit, hunit⟩ := Option.isSome_iff_exists.1 hsome
  have hanswer := eq_of_unitOf? hunit
  exact ⟨unit, hanswer, (System.run_units_stable rfl hostAndBoundary [.changeFiles .empty]).1
    1 "A" unit hanswer⟩

end Isolation
