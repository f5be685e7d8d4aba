import Isolation.Proofs.Capture.Value
import Isolation.Proofs.Json.Accuracy

/-!
# What comes back of floating-point numbers

The text of a finite number tells exactly which number it is. Reading does not always find it: it
rounds the digits, the power of ten and their product or quotient. So a number that was marshaled
comes back finite and with its sign, but at times a few units of the last place off, wherever it
stands in a value; all else comes back as it was.

## Main definitions

* `Binary64.written` — the digits and the power of ten that are read from the text of a number
* `Binary64.reread` — what a finite number is read back as
* `Scalar.mapFloats` — plain data with its floating-point numbers replaced

## Main results

* `Binary64.bind_toFloat?` — finite numbers are always read back
* `Scalar.reread?_eq_mapFloats` — what plain data is read back as
* `decode_encodeReturned_floats` — which numbers survive marshaling
-/

namespace Isolation

open Json

namespace Binary64

/-- The digits and the power of ten that are read from the text of a finite number. -/
def written (x : Binary64) : Decimal := (x.decimal .toEven).asRead

/-- What a finite number is read back as. -/
def reread (x : Binary64) : Binary64 := withSign x.isNegative (estimate x.written)

variable {x : Binary64}

/-- The text of a number is faithful: rounding what it says gives the number. -/
theorem round_written (finite : x.isFinite = true) : round x.written.value = x.abs := by
  rw [written, Decimal.value_asRead, round_decimal .toEven finite]

/-- What is written for a finite number is always read back. -/
theorem bind_toFloat? (finite : x.isFinite = true) :
    (Number.ofFloat? x).bind Number.toFloat? = some x.reread := by
  obtain ⟨hdigits, hlow, hhigh⟩ := decimal_bounds .toEven finite
  obtain ⟨hdigits', hlow', hhigh'⟩ := Number.asRead_bounds hdigits hlow hhigh
  rw [Number.ofFloat?, if_pos finite, Option.bind_some,
    Number.toFloat?_ofDecimal _ hdigits hlow hhigh,
    Number.scaleBy?_eq_estimate hdigits' hlow' hhigh' (isFinite_estimate finite)]
  rfl

theorem reread_eq_self : x.reread = x ↔ estimate x.written = x.abs := by
  conv_lhs => rhs; rw [← x.withSign_abs]
  rw [reread, withSign_inj]

/-- A finite number is read back as it is if the errors of the roundings cancel out. -/
theorem rereads_iff (finite : x.isFinite = true) : x.Rereads ↔ estimate x.written = x.abs := by
  rw [Rereads, bind_toFloat? finite, Option.some_inj, reread_eq_self]

/-- What comes back is finite, keeps its sign, and lies less than six units of the last place
away. -/
theorem reread_close (finite : x.isFinite = true) :
    x.reread.isFinite = true ∧ x.reread.isNegative = x.isNegative ∧
      |x.reread.magnitude - x.magnitude| < 6 * 2 ^ x.scale := by
  rw [reread, isFinite_withSign, magnitude_withSign]
  exact ⟨isFinite_estimate finite, isNegative_withSign _ (isNegative_round _),
    abs_estimate_sub_lt finite⟩

/-- Where digits and power are numbers of the format, there are no errors. -/
theorem reread_of_exact (finite : x.isFinite = true) (hdigits : x.written.digits < 2 ^ 53)
    (hpower : |x.written.exponent| ≤ 22) : x.reread = x := by
  obtain ⟨hlow, hhigh⟩ := abs_le.1 hpower
  rw [reread_eq_self, estimate_of_exact hdigits hlow hhigh, round_written finite]

end Binary64

/-! ### Plain data -/

namespace Scalar

mutual

/-- Plain data with its floating-point numbers replaced. -/
def mapFloats (f : Binary64 → Binary64) : Scalar → Scalar
  | float x => float (f x)
  | array items => array (mapFloatsOfItems f items)
  | record fields => record (mapFloatsOfFields f fields)
  | null => null
  | bool b => bool b
  | int n => int n
  | str text => str text

/-- Items with their floating-point numbers replaced. -/
def mapFloatsOfItems (f : Binary64 → Binary64) : List Scalar → List Scalar
  | [] => []
  | item :: items => item.mapFloats f :: mapFloatsOfItems f items

/-- Fields with their floating-point numbers replaced. -/
def mapFloatsOfFields (f : Binary64 → Binary64) : List (String × Scalar) → List (String × Scalar)
  | [] => []
  | (name, value) :: fields => (name, value.mapFloats f) :: mapFloatsOfFields f fields

end

theorem keys_of_mapFloatsOfFields (f : Binary64 → Binary64) (fields : List (String × Scalar)) :
    (mapFloatsOfFields f fields).map Prod.fst = fields.map Prod.fst := by
  induction fields with
  | nil => rfl
  | cons field fields ih => rw [mapFloatsOfFields, List.map_cons, List.map_cons, ih]

mutual

/-- Plain data without infinities and the like is always read back, with each floating-point number
read for itself. -/
theorem reread?_eq_mapFloats : ∀ {scalar : Scalar}, scalar.Ordered →
    (∀ x ∈ scalar.floats, x.isFinite = true) →
      scalar.reread? = some (scalar.mapFloats Binary64.reread)
  | .null, _, _ | .bool _, _, _ | .int _, _, _ | .str _, _, _ => by rw [reread?, mapFloats]
  | .float x, _, finite => by
    rw [floats, List.forall_mem_singleton] at finite
    rw [reread?, Binary64.bind_toFloat? finite, mapFloats]
    rfl
  | .array items, ordered, finite => by
    have hitems : ∀ item ∈ items, item.Ordered := by
      cases ordered with
      | array ordered => exact ordered
    rw [floats] at finite
    rw [reread?, rereadItems?_eq_mapFloats hitems finite, mapFloats]
    rfl
  | .record fields, ordered, finite => by
    have hfields : Fields.Ordered fields ∧ ∀ field ∈ fields, field.2.Ordered := by
      cases ordered with
      | record keys ordered => exact ⟨keys, ordered⟩
    have keys : Fields.Ordered (mapFloatsOfFields Binary64.reread fields) := by
      rw [Fields.ordered_iff_keys, keys_of_mapFloatsOfFields, ← Fields.ordered_iff_keys]
      exact hfields.1
    rw [floats] at finite
    rw [reread?, rereadFields?_eq_mapFloats hfields.2 finite, mapFloats, Option.map_some,
      Fields.ofList_of_ordered keys]

theorem rereadItems?_eq_mapFloats : ∀ {items : List Scalar}, (∀ item ∈ items, item.Ordered) →
    (∀ x ∈ floatsOfItems items, x.isFinite = true) →
      rereadItems? items = some (mapFloatsOfItems Binary64.reread items)
  | [], _, _ => rfl
  | item :: items, ordered, finite => by
    obtain ⟨hitem, hitems⟩ := List.forall_mem_cons.1 ordered
    rw [floatsOfItems, List.forall_mem_append] at finite
    rw [rereadItems?, reread?_eq_mapFloats hitem finite.1,
      rereadItems?_eq_mapFloats hitems finite.2]
    rfl

theorem rereadFields?_eq_mapFloats : ∀ {fields : List (String × Scalar)},
    (∀ field ∈ fields, field.2.Ordered) → (∀ x ∈ floatsOfFields fields, x.isFinite = true) →
      rereadFields? fields = some (mapFloatsOfFields Binary64.reread fields)
  | [], _, _ => rfl
  | (name, value) :: fields, ordered, finite => by
    obtain ⟨hvalue, hfields⟩ := List.forall_mem_cons.1 ordered
    rw [floatsOfFields, List.forall_mem_append] at finite
    rw [rereadFields?, reread?_eq_mapFloats hvalue finite.1,
      rereadFields?_eq_mapFloats hfields finite.2]
    rfl

end

theorem mem_floatsOfItems_iff {items : List Scalar} {x : Binary64} :
    x ∈ floatsOfItems items ↔ ∃ item ∈ items, x ∈ item.floats := by
  induction items with
  | nil => simp [floatsOfItems]
  | cons item items ih => simp [floatsOfItems, ih]

theorem mem_floatsOfFields_iff {fields : List (String × Scalar)} {x : Binary64} :
    x ∈ floatsOfFields fields ↔ ∃ field ∈ fields, x ∈ field.2.floats := by
  induction fields with
  | nil => simp [floatsOfFields]
  | cons field fields ih => simp [floatsOfFields, ih]

end Scalar

namespace Value

variable {trail : List PathStep} {items : List Value} {fields : List (String × Value)}

theorem finite_of_captureItems {index : ℕ} {scalars : List Scalar}
    (each : ∀ item ∈ items, ∀ {trail scalar}, captureAt trail item = .ok scalar →
      ∀ x ∈ scalar.floats, x.isFinite = true)
    (h : captureItems trail index items = .ok scalars) :
    ∀ scalar ∈ scalars, ∀ x ∈ scalar.floats, x.isFinite = true := by
  rw [captureItems_eq_mapM] at h
  intro scalar hscalar
  obtain ⟨part, hpart, hcapture⟩ := (mem_of_mapM h).1 hscalar
  exact each part.2 (mem_of_mem_itemParts hpart).1 hcapture

theorem finite_of_captureFields {pairs : List (String × Scalar)}
    (each : ∀ field ∈ fields, ∀ {trail scalar}, captureAt trail field.2 = .ok scalar →
      ∀ x ∈ scalar.floats, x.isFinite = true)
    (h : captureFields trail fields = .ok pairs) :
    ∀ pair ∈ pairs, ∀ x ∈ pair.2.floats, x.isFinite = true := by
  induction fields generalizing pairs with
  | nil =>
    cases h
    nofun
  | cons field fields ih =>
    obtain ⟨hfield, hfields⟩ := List.forall_mem_cons.1 each
    obtain ⟨name, value⟩ := field
    rw [captureFields] at h
    split at h
    · exact ih hfields h
    · obtain ⟨first, hfirst, h⟩ := bind_eq_ok h
      obtain ⟨rest, hrest, h⟩ := bind_eq_ok h
      cases h
      exact List.forall_mem_cons.2 ⟨hfield hfirst, ih hfields hrest⟩

/-- No infinities and the like are captured. -/
theorem finite_of_captureAt {value : Value} {scalar : Scalar}
    (h : captureAt trail value = .ok scalar) : ∀ x ∈ scalar.floats, x.isFinite = true := by
  induction value generalizing trail scalar with
  | array items ih =>
    rw [captureAt_eq (length_of_captureAt h)] at h
    obtain ⟨scalars, hitems, rfl⟩ := map_eq_ok h
    intro x hx
    rw [Scalar.floats, Scalar.mem_floatsOfItems_iff] at hx
    obtain ⟨item, hitem, hx⟩ := hx
    exact finite_of_captureItems ih hitems item hitem x hx
  | record typeName fields ih =>
    rw [captureAt_eq (length_of_captureAt h)] at h
    obtain ⟨pairs, hfields, rfl⟩ := map_eq_ok h
    intro x hx
    rw [Scalar.floats, Scalar.mem_floatsOfFields_iff] at hx
    obtain ⟨field, hfield, hx⟩ := hx
    exact finite_of_captureFields ih hfields field (Fields.mem_ofList hfield) x hx
  | float x =>
    rw [captureAt_eq (length_of_captureAt h)] at h
    simp only at h
    split at h
    · next finite =>
      cases h
      rw [Scalar.floats]
      exact List.forall_mem_singleton.2 finite
    · cases h
  | foreign handle =>
    rw [captureAt_eq (length_of_captureAt h)] at h
    cases h
  | _ =>
    rw [captureAt_eq (length_of_captureAt h)] at h
    cases h
    intro x hx
    simp only [Scalar.floats, List.not_mem_nil] at hx

end Value

/-! ### Marshaling -/

/-- What comes back of a value that was captured: the value, with each floating-point number as it
is read back. So it comes back as it was exactly if for all its numbers the errors of the roundings
cancel out; they do where the digits of a number have fifty-three bits at most and its power of ten
is one of the format. All its numbers are finite, and the text of each tells which it is; what comes
back of it is finite, has its sign, and lies less than six units of the last place away. -/
theorem decode_encodeReturned_floats {value : Value} {scalar : Scalar}
    (captured : value.capture = .ok scalar) :
    ∃ bytes, encodeReturned (.ok value) = .ok bytes ∧
      Outcome.decode bytes = .ok (.success (scalar.mapFloats Binary64.reread)) ∧
      (Outcome.decode bytes = .ok (.success scalar) ↔
        ∀ x ∈ scalar.floats, Binary64.estimate x.written = x.abs) ∧
      ∀ x ∈ scalar.floats, x.isFinite = true ∧ Binary64.round x.written.value = x.abs ∧
        (x.reread.isFinite = true ∧ x.reread.isNegative = x.isNegative ∧
          |x.reread.magnitude - x.magnitude| < 6 * 2 ^ x.scale) ∧
        (x.written.digits < 2 ^ 53 → |x.written.exponent| ≤ 22 → x.reread = x) := by
  have finite := Value.finite_of_captureAt captured
  have ordered := (Value.levels_of_captureAt captured).2
  have houtcome : captureOutcome (.ok value) = .ok (.success scalar) := by
    rw [captureOutcome, captured]
    rfl
  have hdecode := decode_encode_of_captureOutcome houtcome
  have hreread := Scalar.reread?_eq_mapFloats ordered finite
  rw [Outcome.reread?, hreread] at hdecode
  refine ⟨(Outcome.success scalar).encode, by rw [encodeReturned, houtcome], hdecode, ?_,
    fun x hx => ⟨finite x hx, Binary64.round_written (finite x hx),
      Binary64.reread_close (finite x hx), Binary64.reread_of_exact (finite x hx)⟩⟩
  have hsame : Outcome.decode (Outcome.success scalar).encode = .ok (.success scalar) ↔
      scalar.reread? = some scalar := by
    rw [hdecode, hreread]
    simp
  rw [hsame, Scalar.reread?_eq_some_iff ordered]
  exact forall₂_congr fun x hx => Binary64.rereads_iff (finite x hx)

/-- One half, zero with a sign, the least number and the greatest one come back from an array in a
record. -/
theorem decode_encodeReturned_floats_extremes :
    ∃ bytes, encodeReturned (.ok (.record "Extremes" [("numbers", .array [
        .float ⟨0x3FE0000000000000⟩, .float ⟨0x8000000000000000⟩, .float ⟨1⟩,
        .float ⟨0x7FEFFFFFFFFFFFFF⟩])])) = .ok bytes ∧
      Outcome.decode bytes = .ok (.success (.record [("numbers", .array [
        .float ⟨0x3FE0000000000000⟩, .float ⟨0x8000000000000000⟩, .float ⟨1⟩,
        .float ⟨0x7FEFFFFFFFFFFFFF⟩])])) := by
  obtain ⟨bytes, hbytes, -, hsame, -⟩ := @decode_encodeReturned_floats
    (.record "Extremes" [("numbers", .array [.float ⟨0x3FE0000000000000⟩,
      .float ⟨0x8000000000000000⟩, .float ⟨1⟩, .float ⟨0x7FEFFFFFFFFFFFFF⟩])]) _ rfl
  exact ⟨bytes, hbytes, hsame.2 (by decide +kernel)⟩

/-- The greatest odd integer that is a number of the format comes back as the even one below it: its
text is read with the zero behind the point, and the seventeen digits are rounded before they are
divided by ten. -/
theorem decode_encodeReturned_float_altered :
    ∃ bytes, encodeReturned (.ok (.float ⟨0x433FFFFFFFFFFFFF⟩)) = .ok bytes ∧
      Outcome.decode bytes = .ok (.success (.float ⟨0x433FFFFFFFFFFFFE⟩)) := by
  have hbits : (Number.ofFloat? ⟨0x433FFFFFFFFFFFFF⟩).bind Number.toFloat? =
      some ⟨0x433FFFFFFFFFFFFE⟩ := by decide +kernel
  refine ⟨_, rfl, ?_⟩
  rw [Outcome.decode_encode, if_pos (by decide), Outcome.reread?, Scalar.reread?, hbits]
  rfl

end Isolation
