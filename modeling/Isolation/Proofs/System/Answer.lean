import Isolation.Proofs.Envelope.Returned
import Isolation.Proofs.Loader.Run
import Isolation.Proofs.System.Calm

/-!
# What a dispatch answers

A dispatch that carries its context in has one of four ends. If there is no unit or no entry point,
it reports that and nothing runs. Otherwise the entry point runs once, and what it did decides:
captured values are a success, values that cannot be captured are a marshaling error, failures and
crashes are a failure. Only a floating-point number that is not read back as it is makes a
difference.

## Main definitions

* `failureOf?` — the failure that work ended with
* `Settles` — an answer fits the way in which work ended

## Main results

* `outcomeOf_eq` — what comes back through marshaling
* `settles_answerOf_iff` — when the answer fits
* `System.Entry.dispatch_settles` — how a dispatch ends
-/

namespace Isolation

/-- What comes back through marshaling. -/
theorem outcomeOf_eq (returned : Except Failure Value) :
    outcomeOf returned =
      match captureOutcome returned with
      | .ok outcome => outcome.reread?.elim (.error .malformed) .ok
      | .error error => .error (.capture error) := by
  rw [outcomeOf, encodeReturned]
  cases h : captureOutcome returned with
  | error error => rfl
  | ok outcome =>
    simp only [bind, Except.bind, decode_encode_of_captureOutcome h]

/-! ### The end of work -/

/-- The failure that work ended with; a crash stands for one of its own. -/
def failureOf? : Ended → Option Failure
  | .done (.ok _) => none
  | .done (.error failure) => some failure
  | .crashed crash => some (.new crash.message)

/-- An answer fits the way in which work ended: a success tells of a value that was captured, a
marshaling error of one that was not, and a failure of a failure or a crash, with the place of the
entry point after all others. -/
structure Settles (unit : UnitInfo) (ended : Ended)
    (answer : Attempt (Except DispatchError Outcome)) : Prop where
  success : ∀ scalar, answer = .done (.ok (.success scalar)) ↔
    ∃ value, ended = .done (.ok value) ∧ value.capture = .ok scalar
  marshal : ∀ error, answer = .done (.error (.marshal error)) ↔
    ∃ value reason, ended = .done (.ok value) ∧ value.capture = .error reason ∧
      error = .capture reason
  failure : ∀ diagnostic, answer = .done (.ok (.failure diagnostic)) ↔
    ∃ failure, failureOf? ended = some failure ∧
      diagnostic = .mk failure.capture.message
        (failure.capture.frames ++ [⟨unit.name, "run", some (unit.archive ++ "!/" ++ unit.path)⟩])
        failure.capture.causes

/-- Failures and crashes are always reported as failures. -/
theorem answerOf_of_failure {unit : UnitInfo} {ended : Ended} {failure : Failure}
    (h : failureOf? ended = some failure) :
    answerOf unit ended =
      .done (.ok (.failure (failure.withFrame (reported.frame unit)).capture)) := by
  have hreported : reported unit ended = .error (failure.withFrame (reported.frame unit)) := by
    cases ended with
    | crashed crash =>
      cases h
      rfl
    | done returned =>
      cases returned with
      | ok value => cases h
      | error e =>
        cases h
        rfl
  rw [answerOf, hreported, outcomeOf_eq]
  rfl

theorem settles_of_failure {unit : UnitInfo} {ended : Ended} {failure : Failure}
    (h : failureOf? ended = some failure) : Settles unit ended (answerOf unit ended) := by
  -- work that failed returned no value, so neither of the other two answers fits
  have hnone : ∀ value, ended ≠ .done (.ok value) := by
    rintro value rfl
    cases h
  rw [answerOf_of_failure h]
  refine ⟨fun scalar => ?_, fun error => ?_, fun diagnostic => ?_⟩
  · constructor
    · intro hanswer
      cases hanswer
    · rintro ⟨value, hended, -⟩
      exact absurd hended (hnone value)
  · constructor
    · intro hanswer
      cases hanswer
    · rintro ⟨value, reason, hended, -⟩
      exact absurd hended (hnone value)
  · constructor
    · intro hanswer
      cases hanswer
      exact ⟨failure, h, rfl⟩
    · rintro ⟨other, hother, rfl⟩
      cases h.symm.trans hother
      rfl

/-- Values that cannot be captured are always reported as such. -/
theorem settles_of_capture_eq_error {unit : UnitInfo} {value : Value} {reason : CaptureError}
    (h : value.capture = .error reason) :
    Settles unit (.done (.ok value)) (answerOf unit (.done (.ok value))) := by
  have hanswer :
      answerOf unit (.done (.ok value)) = .done (.error (.marshal (.capture reason))) := by
    rw [answerOf, outcomeOf_eq, reported, captureOutcome, h]
    rfl
  rw [hanswer]
  refine ⟨fun scalar => ?_, fun error => ?_, fun diagnostic => ?_⟩
  · constructor
    · intro hanswer
      cases hanswer
    · rintro ⟨other, hother, hcapture⟩
      cases hother
      cases h.symm.trans hcapture
  · constructor
    · intro herror
      cases herror
      exact ⟨value, reason, rfl, h, rfl⟩
    · rintro ⟨other, why, hother, hcapture, rfl⟩
      cases hother
      cases h.symm.trans hcapture
      rfl
  · constructor
    · intro hanswer
      cases hanswer
    · rintro ⟨failure, hfailure, -⟩
      cases hfailure

/-- A value that was captured is reported as such exactly if it is read back as it is. -/
theorem settles_iff_of_capture_eq_ok {unit : UnitInfo} {value : Value} {scalar : Scalar}
    (h : value.capture = .ok scalar) :
    Settles unit (.done (.ok value)) (answerOf unit (.done (.ok value))) ↔
      scalar.reread? = some scalar := by
  have hanswer : answerOf unit (.done (.ok value)) =
      scalar.reread?.elim (.done (.error (.marshal .malformed)))
        fun s => .done (.ok (.success s)) := by
    rw [answerOf, outcomeOf_eq, reported, captureOutcome, h]
    cases hreread : scalar.reread? <;> simp [Except.map, Outcome.reread?, hreread]
  rw [hanswer]
  constructor
  · intro settles
    -- the answer has to tell of the captured value, but it tells of what was read back
    have hsuccess := (settles.success scalar).2 ⟨value, rfl, h⟩
    cases hreread : scalar.reread? with
    | none =>
      rw [hreread] at hsuccess
      cases hsuccess
    | some reread =>
      rw [hreread] at hsuccess
      cases hsuccess
      rfl
  · intro hreread
    rw [hreread, Option.elim_some]
    refine ⟨fun other => ?_, fun error => ?_, fun diagnostic => ?_⟩
    · constructor
      · intro hother
        cases hother
        exact ⟨value, rfl, h⟩
      · rintro ⟨returned, hreturned, hcapture⟩
        cases hreturned
        cases h.symm.trans hcapture
        rfl
    · constructor
      · intro hother
        cases hother
      · rintro ⟨returned, reason, hreturned, hcapture, -⟩
        cases hreturned
        cases h.symm.trans hcapture
    · constructor
      · intro hother
        cases hother
      · rintro ⟨failure, hfailure, -⟩
        cases hfailure

/-- The answer fits unless work returned a floating-point number that is not read back as it is. -/
theorem settles_answerOf_iff (unit : UnitInfo) (ended : Ended) :
    Settles unit ended (answerOf unit ended) ↔
      ∀ value scalar, ended = .done (.ok value) → value.capture = .ok scalar →
        ∀ x ∈ scalar.floats, x.Rereads := by
  -- without a value there are no numbers to be read back, and a failure is all text
  cases hfailure : failureOf? ended with
  | some failure =>
    refine ⟨fun _ value scalar hended => ?_, fun _ => settles_of_failure hfailure⟩
    rw [hended] at hfailure
    cases hfailure
  | none =>
    obtain ⟨value, rfl⟩ : ∃ value, ended = .done (.ok value) := by
      cases ended with
      | crashed crash => cases hfailure
      | done returned =>
        cases returned with
        | ok value => exact ⟨value, rfl⟩
        | error failure => cases hfailure
    cases h : value.capture with
    | error reason =>
      refine ⟨fun _ other scalar hother hcapture => ?_, fun _ => settles_of_capture_eq_error h⟩
      cases hother
      cases h.symm.trans hcapture
    | ok scalar =>
      rw [settles_iff_of_capture_eq_ok h,
        Scalar.reread?_eq_some_iff (Value.levels_of_captureAt h).2]
      constructor
      · intro hfloats other found hother hcapture
        cases hother
        cases h.symm.trans hcapture
        exact hfloats
      · intro hfloats
        exact hfloats value scalar rfl h

/-! ### Dispatches -/

namespace System

namespace Entry

/-- How a dispatch ends that has carried its context in. If the unit or its entry point is not
found, that is reported, and what is left behind is what resolving the unit left: nothing ran.
Otherwise the entry point runs once. If it leaves the contexts that were carried in, the dispatch
comes back, and its answer fits the way in which the entry point ended, exactly if every
floating-point number in a value that was captured is read back as it is. -/
theorem dispatch_settles {thread : ThreadId} {request : Request} {system resolved : System}
    {found : Except ResolveError LoadedUnit} (entry : Entry thread request system) (depth : Nat)
    (answered : entry.inside.resolve entry.boundary request.work = (.done found, resolved)) :
    (∀ error, runnable found = .error error →
      dispatch thread (depth + 1) request system =
        some (.done (.error (.resolve error)), entry.leave resolved)) ∧
    ∀ unit handler ended ran, runnable found = .ok (unit, handler) →
      (handler (unit.invocation request.item)).run (dispatch thread depth) thread entry.context
        resolved = some (ended, ran) →
      entry.Kept ran →
      ∃ answer, dispatch thread (depth + 1) request system = some (answer, entry.leave ran) ∧
        (Settles unit.info ended answer ↔
          ∀ value scalar, ended = .done (.ok value) → value.capture = .ok scalar →
            ∀ x ∈ scalar.floats, x.Rereads) := by
  constructor
  · intro error missing
    exact entry.dispatch_of_error depth answered missing
  · intro unit handler ended ran runs run kept
    refine ⟨answerOf unit.info ended, ?_, settles_answerOf_iff unit.info ended⟩
    rw [entry.dispatch_of_run answered runs run, entry.collect_of_kept kept, settle_ok]

end Entry

/-! ### A value that changes on its way -/

/-- The stores after the context of the process was started and a store was made. -/
def twoStores : Stores := (({} : Stores).change processStore (·.start 0 {})).2.make.2

/-- These stores after the context of the process was carried into the second one. -/
def carriedStores : Stores := (twoStores.propagateIn 0 processStore 1).2

/-- A registry with one entry point, which returns a value. -/
def returning (value : Value) : Registry :=
  Registry.empty.registerWork "A" fun _ => .finish (.ok value)

/-- A host with that registry on a directory that holds the unit, a boundary below it, and a context
of the process. -/
def serving (value : Value) : System :=
  let system := System.run
    [.host [.directory "lib"] (returning value) processStore, .boundary {} 0 .empty]
    { files := oneUnit, stores := (({} : Stores).change processStore (·.start 0 {})).2 }
  { system with loaders := system.loaders.bind "B" 1 }

/-- A request for the unit in the boundary. -/
def askA : Request := { work := "A", item := "x", store := .process, target := .existing "B" }

/-- The unit that the host makes. -/
def unitA (value : Value) : LoadedUnit :=
  { serial := 0, name := "A", loader := ⟨1⟩, archive := "lib", path := "A.unit", bytes := [1]
    entries := (returning value).link "A" }

theorem propagateIn_twoStores :
    twoStores.propagateIn 0 processStore 1 = (.ok true, carriedStores) := by
  have hanswer : (twoStores.propagateIn 0 processStore 1).1 = .ok true := by decide +kernel
  rw [carriedStores, ← hanswer]

/-- The dispatch carries the context of the process in. -/
def servingEntry (value : Value) : Entry 0 askA (serving value) where
  boundary := 1
  built := serving value
  armed := true
  stores := carriedStores
  supplied := by with_unfolding_all rfl
  carried := by
    have hcontext : (serving value).contextOf 1 = 1 := by with_unfolding_all rfl
    have hstores : (serving value).stores = twoStores := by with_unfolding_all rfl
    rw [hcontext, hstores]
    exact propagateIn_twoStores

theorem servingEntry_resolve (value : Value) :
    (servingEntry value).inside.resolve 1 "A" =
      (.done (.ok (unitA value)), ((servingEntry value).inside.resolve 1 "A").2) := by
  have hanswer : ((servingEntry value).inside.resolve 1 "A").1 = .done (.ok (unitA value)) := by
    rw [System.resolve]
    with_unfolding_all rfl
  rw [← hanswer]

theorem runnable_unitA (value : Value) :
    runnable (.ok (unitA value)) = .ok (unitA value, fun _ => .finish (.ok value)) := by
  with_unfolding_all rfl

/-- Resolving the unit and returning a value leave the contexts alone. -/
theorem servingEntry_kept (value : Value) :
    (servingEntry value).Kept ((servingEntry value).inside.resolve 1 "A").2 := by
  intro _
  have hactive : (carriedStores.get processStore).isActive 0 = true ∧
      (carriedStores.get 1).isActive 0 = true := by decide +kernel
  have hhost : (servingEntry value).host = processStore := rfl
  have hcontext : (servingEntry value).context = 1 := by with_unfolding_all rfl
  have hstores : (servingEntry value).stores = carriedStores := by rw [servingEntry]
  rw [resolve_stores, Entry.inside_stores, hhost, hcontext, hstores]
  exact hactive

/-- One half comes back, and the context of the process with it. -/
theorem dispatch_settles_half :
    ∃ answer, dispatch 0 1 askA (serving (.float ⟨0x3FE0000000000000⟩)) =
        some (answer, (servingEntry (.float ⟨0x3FE0000000000000⟩)).leave
          ((servingEntry (.float ⟨0x3FE0000000000000⟩)).inside.resolve 1 "A").2) ∧
      Settles (unitA (.float ⟨0x3FE0000000000000⟩)).info
        (.done (.ok (.float ⟨0x3FE0000000000000⟩))) answer := by
  obtain ⟨answer, hdispatch, hsettles⟩ :=
    ((servingEntry (.float ⟨0x3FE0000000000000⟩)).dispatch_settles 0 (servingEntry_resolve _)).2
      _ _ _ _ (runnable_unitA _) rfl (servingEntry_kept _)
  refine ⟨answer, hdispatch, hsettles.2 ?_⟩
  intro value scalar hended hcapture
  cases hended
  have hscalar : Value.capture (.float ⟨0x3FE0000000000000⟩) =
      .ok (.float ⟨0x3FE0000000000000⟩) := rfl
  cases hscalar.symm.trans hcapture
  decide +kernel

/-- One eleventh does not come back, but the next larger number does. -/
theorem dispatch_unsettled_eleventh :
    dispatch 0 1 askA (serving (.float ⟨0x3FB745D1745D1746⟩)) =
        some (.done (.ok (.success (.float ⟨0x3FB745D1745D1747⟩))),
          (servingEntry (.float ⟨0x3FB745D1745D1746⟩)).leave
            ((servingEntry (.float ⟨0x3FB745D1745D1746⟩)).inside.resolve 1 "A").2) ∧
      Value.capture (.float ⟨0x3FB745D1745D1746⟩) = .ok (.float ⟨0x3FB745D1745D1746⟩) ∧
      ¬ Settles (unitA (.float ⟨0x3FB745D1745D1746⟩)).info
        (.done (.ok (.float ⟨0x3FB745D1745D1746⟩)))
        (.done (.ok (.success (.float ⟨0x3FB745D1745D1747⟩)))) := by
  have hcapture : Value.capture (.float ⟨0x3FB745D1745D1746⟩) =
      .ok (.float ⟨0x3FB745D1745D1746⟩) := rfl
  have hreread : Scalar.reread? (.float ⟨0x3FB745D1745D1746⟩) =
      some (.float ⟨0x3FB745D1745D1747⟩) := by
    rw [Scalar.reread?]
    have hbits : (Json.Number.ofFloat? ⟨0x3FB745D1745D1746⟩).bind Json.Number.toFloat? =
        some ⟨0x3FB745D1745D1747⟩ := by decide +kernel
    rw [hbits, Option.map_some]
  refine ⟨?_, hcapture, ?_⟩
  · rw [(servingEntry _).dispatch_of_run (servingEntry_resolve _) (runnable_unitA _) rfl,
      (servingEntry _).collect_of_kept (servingEntry_kept _), settle_ok, answerOf, outcomeOf_eq,
      reported, captureOutcome, hcapture]
    simp only [Except.map, Outcome.reread?, hreread, Option.map_some, Option.elim_some]
  · intro settles
    have hsuccess := (settles.success (.float ⟨0x3FB745D1745D1746⟩)).2 ⟨_, rfl, hcapture⟩
    cases hsuccess

end System

end Isolation
