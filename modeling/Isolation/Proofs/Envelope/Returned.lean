import Isolation.Proofs.Envelope.Outcome
import Isolation.Proofs.Except

/-!
# What work returns survives marshaling

Capturing bounds the depth of what is marshaled: a level of a value takes two levels of a document,
as does a link of a chain of causes, and sixty of them leave room for the rest of the envelope. So
whatever can be encoded comes back as it was captured, as far as its floating-point numbers do.

## Main results

* `Value.levels_of_captureAt`, `Failure.levels_capture` — how deep captured data nests
* `decode_encodeReturned` — what work returned, there and back
-/

namespace Isolation

namespace Value

/-- Nothing is captured at the greatest depth. -/
theorem length_of_captureAt {trail : List PathStep} {value : Value} {scalar : Scalar}
    (h : captureAt trail value = .ok scalar) : trail.length < maxDepth := by
  rw [captureAt.eq_def] at h
  split at h
  · cases h
  · next hdepth => exact Nat.not_le.1 hdepth

/-- A captured value that holds no others. -/
theorem levels_of_leaf {trail : List PathStep} {scalar : Scalar} (hlength : trail.length < maxDepth)
    (hlevels : scalar.levels = 1) : scalar.levels ≤ 2 * (maxDepth - trail.length) := by
  omega

theorem captureAt_eq {trail : List PathStep} {value : Value} (hlength : trail.length < maxDepth) :
    captureAt trail value =
      match value with
      | .null => .ok .null
      | .bool b => .ok (.bool b)
      | .int n => .ok (.int n)
      | .float x =>
        if x.isFinite then .ok (.float x) else .error (.unmarshallable trail (.nonFinite x))
      | .str text => .ok (.str text)
      | .array items => (captureItems trail 0 items).map .array
      | .record _ fields =>
        (captureFields trail fields).map fun pairs => .record (Fields.ofList pairs)
      | .foreign handle => .error (.unmarshallable trail (.foreign handle)) := by
  refine ((captureAt.eq_def trail value).trans (if_neg (Nat.not_le.2 hlength))).trans ?_
  cases value <;> rfl

mutual

/-- Captured data nests no deeper than the levels that are left, and its fields are in order. -/
theorem levels_of_captureAt : ∀ {trail : List PathStep} {value : Value} {scalar : Scalar},
    captureAt trail value = .ok scalar →
      scalar.levels ≤ 2 * (maxDepth - trail.length) ∧ scalar.Ordered
  | trail, .null, scalar, h => by
    have hlength := length_of_captureAt h
    rw [captureAt_eq hlength] at h
    cases h
    exact ⟨levels_of_leaf hlength rfl, .null⟩
  | trail, .bool b, scalar, h => by
    have hlength := length_of_captureAt h
    rw [captureAt_eq hlength] at h
    cases h
    exact ⟨levels_of_leaf hlength rfl, .bool b⟩
  | trail, .int n, scalar, h => by
    have hlength := length_of_captureAt h
    rw [captureAt_eq hlength] at h
    cases h
    exact ⟨levels_of_leaf hlength rfl, .int n⟩
  | trail, .float x, scalar, h => by
    have hlength := length_of_captureAt h
    rw [captureAt_eq hlength] at h
    simp only at h
    split at h
    · cases h
      exact ⟨levels_of_leaf hlength rfl, .float x⟩
    · cases h
  | trail, .str text, scalar, h => by
    have hlength := length_of_captureAt h
    rw [captureAt_eq hlength] at h
    cases h
    exact ⟨levels_of_leaf hlength rfl, .str text⟩
  | trail, .array items, scalar, h => by
    have hlength := length_of_captureAt h
    rw [captureAt_eq hlength] at h
    obtain ⟨scalars, hitems, rfl⟩ := map_eq_ok h
    -- an item is one step further down, and the array takes the two levels that this costs
    have hall := levels_of_captureItems hitems
    have hlevels : (Scalar.array scalars).levels = Scalar.levelsOfItems scalars + 2 := by
      rw [Scalar.levels]
    have hle := Scalar.levelsOfItems_le_iff.2 fun item hitem => (hall item hitem).1
    exact ⟨by omega, .array fun item hitem => (hall item hitem).2⟩
  | trail, .record typeName fields, scalar, h => by
    have hlength := length_of_captureAt h
    rw [captureAt_eq hlength] at h
    obtain ⟨pairs, hfields, rfl⟩ := map_eq_ok h
    have hall := levels_of_captureFields hfields
    have hlevels : (Scalar.record (Fields.ofList pairs)).levels =
        Scalar.levelsOfFields (Fields.ofList pairs) + 2 := by rw [Scalar.levels]
    have hle := Scalar.levelsOfFields_le_iff.2 fun field hfield =>
      (hall field (Fields.mem_ofList hfield)).1
    exact ⟨by omega, .record (Fields.ordered_ofList pairs)
      fun field hfield => (hall field (Fields.mem_ofList hfield)).2⟩
  | trail, .foreign handle, scalar, h => by
    have hlength := length_of_captureAt h
    rw [captureAt_eq hlength] at h
    cases h

theorem levels_of_captureItems : ∀ {trail : List PathStep} {index : Nat} {items : List Value}
    {scalars : List Scalar}, captureItems trail index items = .ok scalars →
      ∀ scalar ∈ scalars, scalar.levels ≤ 2 * (maxDepth - (trail.length + 1)) ∧ scalar.Ordered
  | trail, index, [], scalars, h => by
    cases h
    nofun
  | trail, index, item :: items, scalars, h => by
    rw [captureItems] at h
    obtain ⟨first, hfirst, h⟩ := bind_eq_ok h
    obtain ⟨rest, hrest, h⟩ := bind_eq_ok h
    cases h
    intro scalar hscalar
    rcases List.mem_cons.1 hscalar with rfl | hscalar
    · exact levels_of_captureAt hfirst
    · exact levels_of_captureItems hrest scalar hscalar

theorem levels_of_captureFields : ∀ {trail : List PathStep} {fields : List (String × Value)}
    {pairs : List (String × Scalar)}, captureFields trail fields = .ok pairs →
      ∀ pair ∈ pairs, pair.2.levels ≤ 2 * (maxDepth - (trail.length + 1)) ∧ pair.2.Ordered
  | trail, [], pairs, h => by
    cases h
    nofun
  | trail, (name, value) :: fields, pairs, h => by
    rw [captureFields] at h
    split at h
    · exact levels_of_captureFields h
    · obtain ⟨first, hfirst, h⟩ := bind_eq_ok h
      obtain ⟨rest, hrest, h⟩ := bind_eq_ok h
      cases h
      intro pair hpair
      rcases List.mem_cons.1 hpair with rfl | hpair
      · exact levels_of_captureAt hfirst
      · exact levels_of_captureFields hrest pair hpair

end

end Value

/-! ### Failures -/

/-- Each link of a chain takes two levels, and the frames of the last one a level more. -/
theorem Diagnostic.levelsOf_ofChain? (causes : List Cause) :
    Diagnostic.levelsOf (Diagnostic.ofChain? causes).toList ≤ 2 * causes.length + 1 := by
  induction causes with
  | nil => exact Nat.zero_le 1
  | cons cause causes ih =>
    have hframes : (if cause.frames = [] then 0 else 1) ≤ 1 := by split <;> omega
    simp only [Diagnostic.ofChain?, Option.toList_some, Diagnostic.levelsOf, Diagnostic.levels,
      List.length_cons]
    omega

/-- However long its chain of causes is, a failure nests no deeper than the levels kept of it. -/
theorem Failure.levels_capture (failure : Failure) :
    failure.capture.levels ≤ 2 * maxDepth + 1 := by
  have hframes : (if failure.frames = [] then 0 else 1) ≤ 1 := by split <;> omega
  -- of a longer chain the rest is dropped, so its length does not matter
  have hkept : (failure.causes.take (maxDepth - 1)).length ≤ maxDepth - 1 := by
    rw [List.length_take]
    exact Nat.min_le_left _ _
  have hchain := Diagnostic.levelsOf_ofChain? (failure.causes.take (maxDepth - 1))
  have hdepth : 1 ≤ maxDepth := by decide
  simp only [Failure.capture, Cause.capture, Diagnostic.levels, Cause.frames]
  omega

/-! ### Outcomes -/

/-- What was captured fits in an envelope. -/
theorem levels_captureOutcome {returned : Except Failure Value} {outcome : Outcome}
    (h : captureOutcome returned = .ok outcome) : outcome.levels < Envelope.maxLevels := by
  -- the outcome and its envelope need a level each, beside the frames of the last cause
  have hroom : 2 * maxDepth + 2 < Envelope.maxLevels := by decide
  cases returned with
  | ok value =>
    obtain ⟨scalar, hscalar, rfl⟩ := map_eq_ok h
    have hlevels := (Value.levels_of_captureAt hscalar).1
    rw [Outcome.levels]
    omega
  | error failure =>
    cases h
    have hlevels := failure.levels_capture
    rw [Outcome.levels]
    omega

theorem ordered_captureOutcome {returned : Except Failure Value} {outcome : Outcome}
    (h : captureOutcome returned = .ok outcome) : outcome.Ordered := by
  cases returned with
  | ok value =>
    obtain ⟨scalar, hscalar, rfl⟩ := map_eq_ok h
    exact (Value.levels_of_captureAt hscalar).2
  | error failure =>
    cases h
    trivial

/-- What was captured is read back as it is exactly if its floating-point numbers are. -/
theorem reread?_captureOutcome {returned : Except Failure Value} {outcome : Outcome}
    (h : captureOutcome returned = .ok outcome) :
    outcome.reread? = some outcome ↔ ∀ x ∈ outcome.floats, x.Rereads :=
  Outcome.reread?_eq_some_iff (ordered_captureOutcome h)

/-- What comes back of what was captured: the limit on levels is never met. -/
theorem decode_encode_of_captureOutcome {returned : Except Failure Value} {outcome : Outcome}
    (h : captureOutcome returned = .ok outcome) :
    Outcome.decode outcome.encode = outcome.reread?.elim (.error .malformed) .ok := by
  rw [Outcome.decode_encode, if_pos (levels_captureOutcome h)]

theorem encodeReturned_eq_ok {returned : Except Failure Value} {bytes : List UInt8}
    (h : encodeReturned returned = .ok bytes) :
    ∃ outcome, captureOutcome returned = .ok outcome ∧ outcome.encode = bytes := by
  rw [encodeReturned] at h
  split at h
  · next outcome houtcome => exact ⟨outcome, houtcome, Except.ok.inj h⟩
  · cases h

/-- Whatever can be encoded comes back as it was captured, exactly if its floating-point numbers are
read back as they are. -/
theorem decode_encodeReturned {returned : Except Failure Value} {bytes : List UInt8}
    (h : encodeReturned returned = .ok bytes) :
    ∃ outcome, captureOutcome returned = .ok outcome ∧
      (Outcome.decode bytes = .ok outcome ↔ ∀ x ∈ outcome.floats, x.Rereads) := by
  obtain ⟨outcome, houtcome, rfl⟩ := encodeReturned_eq_ok h
  refine ⟨outcome, houtcome, ?_⟩
  rw [decode_encode_of_captureOutcome houtcome, ← reread?_captureOutcome houtcome]
  cases outcome.reread? <;> simp

/-- One half and its negation, in an array in a record with a private field. -/
theorem decode_encodeReturned_record :
    ∃ bytes, encodeReturned (.ok (.record "Pair" [("_key", .foreign 7),
        ("parts", .array [.float ⟨0x3FE0000000000000⟩, .float ⟨0xBFE0000000000000⟩])])) =
          .ok bytes ∧
      Outcome.decode bytes = .ok (.success (.record [("parts",
        .array [.float ⟨0x3FE0000000000000⟩, .float ⟨0xBFE0000000000000⟩])])) := by
  obtain ⟨outcome, houtcome, hdecode⟩ := @decode_encodeReturned (.ok (.record "Pair"
    [("_key", .foreign 7),
      ("parts", .array [.float ⟨0x3FE0000000000000⟩, .float ⟨0xBFE0000000000000⟩])])) _ rfl
  cases houtcome
  exact ⟨_, rfl, hdecode.2 (by decide +kernel)⟩

end Isolation
