import Isolation.Proofs.Envelope.Returned

/-!
# Which values can be captured

A value is captured if all its public parts can be, and what is captured is the value without its
private fields and the names of its record types. Of a value that cannot be captured the first part
that is in the way is told: parts are looked at from the outside to the inside, and in order.

## Main definitions

* `Value.parts`, `Value.Shows` — the public parts of a value, and the ways that lead to them
* `Precedes` — the order in which parts are looked at
* `Value.visible`, `Scalar.asValue` — what can be seen of a value, and plain data as a value
* `Value.FirstRefused` — the first part that cannot be captured

## Main results

* `Value.exists_captureAt_eq`, `Value.exists_refusedWith` — one value and its parts
* `Value.shows_of_captureAt` — all public parts of what is captured can be captured
* `Value.exists_firstRefused` — the error tells of the first part that cannot
* `Value.capture_decides` — what is captured, and what is refused
-/

namespace Isolation

/-! ### Ways and their order -/

/-- The order of the parts of one value: items by index, fields by name. -/
inductive PathStep.Before : PathStep → PathStep → Prop
  | item {index other : Nat} (h : index < other) : Before (.item index) (.item other)
  | field {name other : String} (h : name < other) : Before (.field name) (.field other)

/-- The order in which parts are looked at, told by the ways to them: a value comes before its
parts, and of two parts of one value the earlier one comes first with all that is in it. -/
def Precedes : List PathStep → List PathStep → Prop := List.Lex PathStep.Before

/-- A trail is the way to a part, read backwards. -/
theorem displayTrail_reverse (path : List PathStep) :
    displayTrail path.reverse = "$" ++ String.join (path.map PathStep.display) := by
  rw [displayTrail, List.reverse_reverse]

/-! ### Plain data as values -/

namespace Scalar

mutual

/-- Plain data as a value, in which the types of records have no names. -/
def asValue : Scalar → Value
  | null => .null
  | bool b => .bool b
  | int n => .int n
  | float x => .float x
  | str text => .str text
  | array items => .array (asValues items)
  | record fields => .record "" (asFields fields)

/-- Items as values. -/
def asValues : List Scalar → List Value
  | [] => []
  | item :: items => item.asValue :: asValues items

/-- Fields with values. -/
def asFields : List (String × Scalar) → List (String × Value)
  | [] => []
  | (name, scalar) :: fields => (name, scalar.asValue) :: asFields fields

end

end Scalar

namespace Value

/-! ### What can be seen of a value -/

mutual

/-- A value without its private fields and the names of its record types. -/
def visible : Value → Value
  | array items => array (visibleItems items)
  | record _ fields => record "" (visibleFields fields)
  | leaf => leaf

/-- What can be seen of items. -/
def visibleItems : List Value → List Value
  | [] => []
  | item :: items => item.visible :: visibleItems items

/-- What can be seen of fields. -/
def visibleFields : List (String × Value) → List (String × Value)
  | [] => []
  | (name, value) :: fields =>
    if Record.isPrivate name then visibleFields fields
    else (name, value.visible) :: visibleFields fields

end

/-- The fields of all records in a value are in order. -/
inductive Ordered : Value → Prop
  | null : Ordered .null
  | bool (b : Bool) : Ordered (.bool b)
  | int (n : Int64) : Ordered (.int n)
  | float (x : Binary64) : Ordered (.float x)
  | str (text : String) : Ordered (.str text)
  | array {items} (ordered : ∀ item ∈ items, Ordered item) : Ordered (.array items)
  | record {typeName fields} (keys : Fields.Ordered fields)
      (ordered : ∀ field ∈ fields, Ordered field.2) : Ordered (.record typeName fields)
  | foreign (handle : UInt64) : Ordered (.foreign handle)

/-- Why a value itself cannot be captured, whatever its parts are. -/
def obstacle? : Value → Option Obstacle
  | foreign handle => some (.foreign handle)
  | float x => if x.isFinite then none else some (.nonFinite x)
  | _ => none

/-- The items of an array from an index on, each with the step that leads to it. -/
def itemParts (index : Nat) : List Value → List (PathStep × Value)
  | [] => []
  | item :: items => (.item index, item) :: itemParts (index + 1) items

/-- The public fields of a record, each with the step that leads to it. -/
def fieldParts : List (String × Value) → List (PathStep × Value)
  | [] => []
  | (name, value) :: fields =>
    if Record.isPrivate name then fieldParts fields else (.field name, value) :: fieldParts fields

/-- The public parts of a value, each with the step that leads to it, in order. -/
def parts : Value → List (PathStep × Value)
  | array items => itemParts 0 items
  | record _ fields => fieldParts fields
  | _ => []

/-- A value shows itself, and what its public parts show; the way there is told step by step. -/
inductive Shows : Value → List PathStep → Value → Prop
  | here (value : Value) : Shows value [] value
  | inside {value step part path inner} (mem : (step, part) ∈ value.parts)
      (below : Shows part path inner) : Shows value (step :: path) inner

/-- A part that is shown can be captured: not too many arrays and records are around it, and nothing
else is in the way. -/
def Admitted (depth : Nat) (part : Value) : Prop := depth < maxDepth ∧ part.obstacle? = none

/-- The first part that is shown and cannot be captured, where the value itself lies at some
depth. -/
structure FirstRefused (depth : Nat) (value : Value) (path : List PathStep) (part : Value) :
    Prop where
  shown : value.Shows path part
  refused : ¬ Admitted (depth + path.length) part
  first : ∀ {path' part'}, value.Shows path' part' → ¬ Admitted (depth + path'.length) part' →
    path' = path ∨ Precedes path path'

/-- Induction on a value, where the parts of an array or of a record are its members. -/
@[induction_eliminator]
theorem induction_members {motive : Value → Prop} (null : motive .null)
    (bool : ∀ b, motive (.bool b)) (int : ∀ n, motive (.int n)) (float : ∀ x, motive (.float x))
    (str : ∀ text, motive (.str text))
    (array : ∀ items, (∀ item ∈ items, motive item) → motive (.array items))
    (record : ∀ typeName fields, (∀ field ∈ fields, motive field.2) →
      motive (.record typeName fields))
    (foreign : ∀ handle, motive (.foreign handle)) (value : Value) : motive value :=
  @Value.rec motive (fun items => ∀ item ∈ items, motive item)
    (fun fields => ∀ field ∈ fields, motive field.2) (fun field => motive field.2)
    null bool int float str array record foreign nofun
    (fun _ _ hitem hitems => List.forall_mem_cons.2 ⟨hitem, hitems⟩) nofun
    (fun _ _ hfield hfields => List.forall_mem_cons.2 ⟨hfield, hfields⟩)
    (fun _ _ hvalue => hvalue) value

variable {value part : Value} {items : List Value} {fields : List (String × Value)}
  {trail : List PathStep} {scalar : Scalar} {error : CaptureError}

/-! ### Parts -/

theorem mem_of_mem_itemParts {index : Nat} {part : PathStep × Value}
    (h : part ∈ itemParts index items) : part.2 ∈ items ∧ ∃ i ≥ index, part.1 = .item i := by
  induction items generalizing index with
  | nil => cases h
  | cons item items ih =>
    obtain rfl | h := List.mem_cons.1 h
    · exact ⟨List.mem_cons_self, index, Nat.le_refl index, rfl⟩
    · obtain ⟨hitem, i, hi, hstep⟩ := ih h
      exact ⟨List.mem_cons_of_mem item hitem, i, by omega, hstep⟩

theorem mem_of_mem_fieldParts {part : PathStep × Value} (h : part ∈ fieldParts fields) :
    ∃ field ∈ fields, part = (.field field.1, field.2) := by
  induction fields with
  | nil => cases h
  | cons field fields ih =>
    rw [fieldParts] at h
    split at h
    · obtain ⟨other, hother, heq⟩ := ih h
      exact ⟨other, List.mem_cons_of_mem field hother, heq⟩
    · obtain rfl | h := List.mem_cons.1 h
      · exact ⟨field, List.mem_cons_self, rfl⟩
      · obtain ⟨other, hother, heq⟩ := ih h
        exact ⟨other, List.mem_cons_of_mem field hother, heq⟩

/-- Induction on a value by its public parts. -/
theorem induction_parts {motive : Value → Prop}
    (step : ∀ value, (∀ part ∈ value.parts, motive part.2) → motive value) (value : Value) :
    motive value := by
  induction value with
  | array items ih => exact step _ fun part hpart => ih _ (mem_of_mem_itemParts hpart).1
  | record typeName fields ih =>
    refine step _ fun part hpart => ?_
    obtain ⟨field, hfield, rfl⟩ := mem_of_mem_fieldParts hpart
    exact ih field hfield
  | _ => exact step _ nofun

theorem Ordered.of_mem_parts (ordered : value.Ordered) :
    ∀ part ∈ value.parts, part.2.Ordered := by
  intro part hpart
  cases ordered with
  | array ordered => exact ordered _ (mem_of_mem_itemParts hpart).1
  | record _ ordered =>
    obtain ⟨field, hfield, rfl⟩ := mem_of_mem_fieldParts hpart
    exact ordered field hfield
  | _ => cases hpart

theorem pairwise_itemParts (index : Nat) (items : List Value) :
    (itemParts index items).Pairwise fun part other => part.1.Before other.1 := by
  induction items generalizing index with
  | nil => exact .nil
  | cons item items ih =>
    refine List.pairwise_cons.2 ⟨fun other hother => ?_, ih (index + 1)⟩
    obtain ⟨-, i, hi, hstep⟩ := mem_of_mem_itemParts hother
    rw [hstep]
    exact .item hi

theorem pairwise_fieldParts (keys : Fields.Ordered fields) :
    (fieldParts fields).Pairwise fun part other => part.1.Before other.1 := by
  induction fields with
  | nil => exact .nil
  | cons field fields ih =>
    obtain ⟨hfirst, hrest⟩ := List.pairwise_cons.1 keys
    rw [fieldParts]
    split
    · exact ih hrest
    · refine List.pairwise_cons.2 ⟨fun other hother => ?_, ih hrest⟩
      obtain ⟨later, hlater, rfl⟩ := mem_of_mem_fieldParts hother
      exact .field (hfirst later hlater)

/-- The parts of a value stand in their order. -/
theorem Ordered.pairwise_parts (ordered : value.Ordered) :
    value.parts.Pairwise fun part other => part.1.Before other.1 := by
  cases ordered with
  | array => exact pairwise_itemParts 0 _
  | record keys => exact pairwise_fieldParts keys
  | _ => exact .nil

/-! ### One value and its parts -/

/-- Captures a part of the value that a trail leads to. -/
def capturePart (trail : List PathStep) (part : PathStep × Value) : Except CaptureError Scalar :=
  captureAt (part.1 :: trail) part.2

theorem captureItems_eq_mapM (trail : List PathStep) (index : Nat) (items : List Value) :
    captureItems trail index items = (itemParts index items).mapM (capturePart trail) := by
  induction items generalizing index with
  | nil => rfl
  | cons item items ih =>
    rw [captureItems, itemParts, List.mapM_cons, ih]
    rfl

/-- The fields that are captured are those that are public; names are put to them afterwards. -/
theorem exists_captureFields_eq (trail : List PathStep) (fields : List (String × Value)) :
    ∃ build : List Scalar → List (String × Scalar),
      captureFields trail fields = ((fieldParts fields).mapM (capturePart trail)).map build := by
  induction fields with
  | nil => exact ⟨fun _ => [], rfl⟩
  | cons field fields ih =>
    obtain ⟨name, value⟩ := field
    obtain ⟨build, hbuild⟩ := ih
    rw [captureFields, fieldParts]
    by_cases hprivate : Record.isPrivate name
    · rw [if_pos hprivate, if_pos hprivate]
      exact ⟨build, hbuild⟩
    · rw [if_neg hprivate, if_neg hprivate, List.mapM_cons, hbuild, capturePart]
      refine ⟨fun scalars => scalars.head?.toList.map (name, ·) ++ build scalars.tail, ?_⟩
      cases captureAt (.field name :: trail) value with
      | error error => rfl
      | ok scalar => cases (fieldParts fields).mapM (capturePart trail) <;> rfl

/-- If nothing is in the way of a value itself, its parts are captured one after the other, and the
value is put together from them. -/
theorem exists_captureAt_eq (admitted : Admitted trail.length value) :
    ∃ build, captureAt trail value = (value.parts.mapM (capturePart trail)).map build := by
  obtain ⟨hlength, hnone⟩ := admitted
  rw [captureAt_eq hlength]
  cases value with
  | null => exact ⟨fun _ => .null, rfl⟩
  | bool b => exact ⟨fun _ => .bool b, rfl⟩
  | int n => exact ⟨fun _ => .int n, rfl⟩
  | str text => exact ⟨fun _ => .str text, rfl⟩
  | array items =>
    exact ⟨.array, congrArg (Except.map Scalar.array) (captureItems_eq_mapM trail 0 items)⟩
  | record typeName fields =>
    obtain ⟨build, hbuild⟩ := exists_captureFields_eq trail fields
    refine ⟨fun scalars => .record (Fields.ofList (build scalars)), ?_⟩
    simp only [hbuild, parts]
    cases (fieldParts fields).mapM (capturePart trail) <;> rfl
  | float x =>
    rw [obstacle?] at hnone
    split at hnone
    · next hfinite => exact ⟨fun _ => .float x, if_pos hfinite⟩
    · cases hnone
  | foreign handle => cases hnone

/-- The error that a part is refused with: beyond the greatest depth whatever it is, else for what is
in the way. -/
def RefusedWith (trail : List PathStep) (part : Value) (error : CaptureError) : Prop :=
  maxDepth ≤ trail.length ∧ error = .tooDeep ∨
    trail.length < maxDepth ∧ ∃ obstacle, part.obstacle? = some obstacle ∧
      error = .unmarshallable trail obstacle

/-- Otherwise the value is refused, whatever its parts are. -/
theorem exists_refusedWith (refused : ¬ Admitted trail.length value) :
    ∃ error, captureAt trail value = .error error ∧ RefusedWith trail value error := by
  by_cases hlength : trail.length < maxDepth
  · rw [captureAt_eq hlength]
    cases value with
    | float x =>
      by_cases hfinite : x.isFinite
      · exact absurd ⟨hlength, if_pos hfinite⟩ refused
      · exact ⟨_, if_neg hfinite, .inr ⟨hlength, .nonFinite x, if_neg hfinite, rfl⟩⟩
    | foreign handle => exact ⟨_, rfl, .inr ⟨hlength, .foreign handle, rfl, rfl⟩⟩
    | _ => exact absurd ⟨hlength, rfl⟩ refused
  · have hdeep := Nat.le_of_not_lt hlength
    refine ⟨.tooDeep, ?_, .inl ⟨hdeep, rfl⟩⟩
    rw [captureAt.eq_def, if_pos hdeep]

/-- A value is captured only if nothing is in the way, and with all its parts. -/
theorem captureAt_eq_ok (h : captureAt trail value = .ok scalar) :
    Admitted trail.length value ∧
      ∀ part ∈ value.parts, ∃ scalar, capturePart trail part = .ok scalar := by
  by_cases admitted : Admitted trail.length value
  · obtain ⟨build, hbuild⟩ := exists_captureAt_eq admitted
    obtain ⟨scalars, hscalars, -⟩ := map_eq_ok (hbuild.symm.trans h)
    exact ⟨admitted, exists_mapM_iff.1 ⟨scalars, hscalars⟩⟩
  · obtain ⟨error, herror, -⟩ := exists_refusedWith admitted
    cases h.symm.trans herror

/-! ### All public parts -/

/-- All that is shown by a value that is captured can be captured. -/
theorem shows_of_captureAt (h : captureAt trail value = .ok scalar) {path : List PathStep}
    (shown : value.Shows path part) : Admitted (trail.length + path.length) part := by
  induction shown generalizing trail scalar with
  | here value => exact (captureAt_eq_ok h).1
  | inside mem _ ih =>
    obtain ⟨inner, hinner⟩ := (captureAt_eq_ok h).2 _ mem
    have hadmitted := ih hinner
    rwa [List.length_cons, Nat.add_right_comm] at hadmitted

/-! ### The first part that is refused -/

/-- A value that is refused itself is the first part that is. -/
theorem firstRefused_here {depth : Nat} (refused : ¬ Admitted depth value) :
    value.FirstRefused depth [] value where
  shown := .here value
  refused := refused
  first {path' _} _ _ := by
    cases path' with
    | nil => exact .inl rfl
    | cons step path => exact .inr .nil

/-- If a part is refused after all earlier ones could be captured, the first part that is refused is
in it. -/
theorem FirstRefused.inside {before after : List (PathStep × Value)} {step : PathStep}
    {path : List PathStep} {inner : Value} (ordered : value.Ordered)
    (hparts : value.parts = before ++ (step, part) :: after)
    (admitted : Admitted trail.length value)
    (hbefore : ∀ earlier ∈ before, ∃ scalar, capturePart trail earlier = .ok scalar)
    (first : part.FirstRefused (trail.length + 1) path inner) :
    value.FirstRefused trail.length (step :: path) inner where
  shown := .inside (hparts ▸ List.mem_append_right _ List.mem_cons_self) first.shown
  refused := by
    rw [List.length_cons, ← Nat.add_assoc, Nat.add_right_comm]
    exact first.refused
  first {path' part'} shown refused := by
    cases shown with
    | here => exact absurd admitted refused
    | @inside _ step' other path' _ mem below =>
      rw [List.length_cons, ← Nat.add_assoc, Nat.add_right_comm] at refused
      have hpairwise := ordered.pairwise_parts
      rw [hparts] at mem hpairwise
      obtain hmem | hmem := List.mem_append.1 mem
      -- nothing is refused in a part that could be captured
      · obtain ⟨scalar, hscalar⟩ := hbefore _ hmem
        exact absurd (shows_of_captureAt hscalar below) refused
      · obtain heq | hmem := List.mem_cons.1 hmem
        · cases heq
          exact (first.first below refused).imp (congrArg _) .cons
        · have hafter := (List.pairwise_cons.1 (List.pairwise_append.1 hpairwise).2.1).1
          exact .inr (.rel (hafter _ hmem))

/-- The error tells of the first part that cannot be captured. -/
theorem exists_firstRefused (ordered : value.Ordered) (hlength : trail.length ≤ maxDepth)
    (h : captureAt trail value = .error error) :
    ∃ path part, value.FirstRefused trail.length path part ∧
      (path.reverse ++ trail).length ≤ maxDepth ∧ RefusedWith (path.reverse ++ trail) part error := by
  -- the induction goes down to the part that stopped the traversal, which may again have parts
  induction value using induction_parts generalizing trail with
  | step value ih =>
    by_cases admitted : Admitted trail.length value
    · obtain ⟨build, hbuild⟩ := exists_captureAt_eq admitted
      obtain ⟨before, ⟨step, part⟩, after, hparts, hbefore, herror⟩ :=
        exists_of_mapM_eq_error (map_eq_error (hbuild.symm.trans h))
      have hmem : (step, part) ∈ value.parts :=
        hparts ▸ List.mem_append_right _ List.mem_cons_self
      have hlength' : (step :: trail).length ≤ maxDepth := admitted.1
      obtain ⟨path, inner, first, hwith⟩ :=
        ih _ hmem (ordered.of_mem_parts _ hmem) hlength' herror
      refine ⟨step :: path, inner, first.inside ordered hparts admitted hbefore, ?_⟩
      rwa [List.reverse_cons, List.append_assoc, List.singleton_append]
    · obtain ⟨other, hother, hwith⟩ := exists_refusedWith admitted
      cases h.symm.trans hother
      exact ⟨[], value, firstRefused_here admitted, hlength, hwith⟩

/-! ### What is captured -/

theorem asValues_of_captureItems {index : Nat} {scalars : List Scalar}
    (each : ∀ item ∈ items, ∀ {trail scalar}, captureAt trail item = .ok scalar →
      scalar.asValue = item.visible)
    (h : captureItems trail index items = .ok scalars) :
    Scalar.asValues scalars = visibleItems items := by
  induction items generalizing index scalars with
  | nil =>
    cases h
    rfl
  | cons item items ih =>
    obtain ⟨hitem, hitems⟩ := List.forall_mem_cons.1 each
    rw [captureItems] at h
    obtain ⟨first, hfirst, h⟩ := bind_eq_ok h
    obtain ⟨rest, hrest, h⟩ := bind_eq_ok h
    cases h
    rw [Scalar.asValues, visibleItems, hitem hfirst, ih hitems hrest]

theorem asFields_of_captureFields {pairs : List (String × Scalar)}
    (each : ∀ field ∈ fields, ∀ {trail scalar}, captureAt trail field.2 = .ok scalar →
      scalar.asValue = field.2.visible)
    (h : captureFields trail fields = .ok pairs) :
    Scalar.asFields pairs = visibleFields fields := by
  induction fields generalizing pairs with
  | nil =>
    cases h
    rfl
  | cons field fields ih =>
    obtain ⟨hfield, hfields⟩ := List.forall_mem_cons.1 each
    obtain ⟨name, value⟩ := field
    rw [captureFields] at h
    rw [visibleFields]
    split at h
    · next hprivate =>
      rw [if_pos hprivate]
      exact ih hfields h
    · next hpublic =>
      obtain ⟨first, hfirst, h⟩ := bind_eq_ok h
      obtain ⟨rest, hrest, h⟩ := bind_eq_ok h
      cases h
      rw [if_neg hpublic, Scalar.asFields, hfield hfirst, ih hfields hrest]

/-- Captured fields keep their names and their order. -/
theorem keys_of_captureFields {pairs : List (String × Scalar)}
    (h : captureFields trail fields = .ok pairs) :
    (pairs.map Prod.fst).Sublist (fields.map Prod.fst) := by
  induction fields generalizing pairs with
  | nil =>
    cases h
    exact .slnil
  | cons field fields ih =>
    obtain ⟨name, value⟩ := field
    rw [captureFields] at h
    split at h
    · exact .cons _ (ih h)
    · obtain ⟨first, hfirst, h⟩ := bind_eq_ok h
      obtain ⟨rest, hrest, h⟩ := bind_eq_ok h
      cases h
      exact .cons_cons _ (ih hrest)

theorem ofList_of_captureFields {pairs : List (String × Scalar)} (keys : Fields.Ordered fields)
    (h : captureFields trail fields = .ok pairs) : Fields.ofList pairs = pairs := by
  refine Fields.ofList_of_ordered (Fields.ordered_iff_keys.2 ?_)
  exact (Fields.ordered_iff_keys.1 keys).sublist (keys_of_captureFields h)

/-- What is captured is what can be seen of the value. -/
theorem asValue_of_captureAt (ordered : value.Ordered) (h : captureAt trail value = .ok scalar) :
    scalar.asValue = value.visible := by
  induction value generalizing trail scalar with
  | array items ih =>
    rw [captureAt_eq (length_of_captureAt h)] at h
    obtain ⟨scalars, hitems, rfl⟩ := map_eq_ok h
    cases ordered with
    | array ordered =>
      rw [Scalar.asValue, visible,
        asValues_of_captureItems (fun item hitem => ih item hitem (ordered item hitem)) hitems]
  | record typeName fields ih =>
    rw [captureAt_eq (length_of_captureAt h)] at h
    obtain ⟨pairs, hfields, rfl⟩ := map_eq_ok h
    cases ordered with
    | record keys ordered =>
      rw [Scalar.asValue, visible, ofList_of_captureFields keys hfields,
        asFields_of_captureFields (fun field hfield => ih field hfield (ordered field hfield))
          hfields]
  | float x =>
    rw [captureAt_eq (length_of_captureAt h)] at h
    simp only at h
    split at h
    · cases h
      rfl
    · cases h
  | foreign handle =>
    rw [captureAt_eq (length_of_captureAt h)] at h
    cases h
  | _ =>
    rw [captureAt_eq (length_of_captureAt h)] at h
    cases h
    rfl

/-! ### What does not matter -/

theorem captureItems_visibleItems
    (each : ∀ item ∈ items, ∀ trail, captureAt trail item.visible = captureAt trail item)
    (trail : List PathStep) (index : Nat) :
    captureItems trail index (visibleItems items) = captureItems trail index items := by
  induction items generalizing index with
  | nil => rfl
  | cons item items ih =>
    obtain ⟨hitem, hitems⟩ := List.forall_mem_cons.1 each
    rw [visibleItems, captureItems, captureItems, hitem, ih hitems]

theorem captureFields_visibleFields
    (each : ∀ field ∈ fields, ∀ trail, captureAt trail field.2.visible = captureAt trail field.2)
    (trail : List PathStep) :
    captureFields trail (visibleFields fields) = captureFields trail fields := by
  induction fields with
  | nil => rfl
  | cons field fields ih =>
    obtain ⟨hfield, hfields⟩ := List.forall_mem_cons.1 each
    obtain ⟨name, value⟩ := field
    rw [visibleFields, captureFields]
    by_cases hprivate : Record.isPrivate name
    · rw [if_pos hprivate, if_pos hprivate, ih hfields]
    · rw [if_neg hprivate, if_neg hprivate, captureFields, if_neg hprivate, hfield, ih hfields]

/-- Private fields and the names of record types do not matter. -/
theorem captureAt_visible (trail : List PathStep) (value : Value) :
    captureAt trail value.visible = captureAt trail value := by
  induction value generalizing trail with
  | array items ih =>
    have hitems := captureItems_visibleItems (fun item hitem trail => ih item hitem trail) trail 0
    rw [visible, captureAt.eq_def, captureAt.eq_def]
    simp only [hitems]
  | record typeName fields ih =>
    have hfields := captureFields_visibleFields (fun field hfield trail => ih field hfield trail)
      trail
    rw [visible, captureAt.eq_def, captureAt.eq_def]
    simp only [hfields]
  | _ => rfl

end Value

/-- The value of a record is in order if the values of its fields are. -/
theorem Record.ordered_toValue {record : Record}
    (h : ∀ field ∈ record.fields.toList, field.2.Ordered) : record.toValue.Ordered :=
  .record record.fields.ordered h

namespace Value

/-- What is captured, and what is refused. A value is captured exactly if fewer than sixty arrays
and records are around each part that it shows, and nothing else is in the way; then all that can be
seen of it is captured. Otherwise the error is that of the first part that is refused, in the order
in which they are looked at, and tells the way to this part. Values that look the same are captured
and marshaled in the same way. -/
theorem capture_decides {value : Value} (ordered : value.Ordered) :
    ((∃ scalar, value.capture = .ok scalar) ↔
        ∀ path part, value.Shows path part → path.length < 60 ∧ part.obstacle? = none) ∧
      (∀ scalar, value.capture = .ok scalar → scalar.asValue = value.visible) ∧
      (∀ error, value.capture = .error error → ∃ path part, value.FirstRefused 0 path part ∧
        (path.length = 60 ∧ error = .tooDeep ∨
          path.length < 60 ∧ ∃ obstacle, part.obstacle? = some obstacle ∧
            error = .unmarshallable path.reverse obstacle ∧
            displayTrail path.reverse = "$" ++ String.join (path.map PathStep.display))) ∧
      ∀ other : Value, other.visible = value.visible →
        other.capture = value.capture ∧ encodeReturned (.ok other) = encodeReturned (.ok value) := by
  have hrefused {error : CaptureError} (h : value.capture = .error error) :
      ∃ path part, value.FirstRefused 0 path part ∧ path.length ≤ 60 ∧
        RefusedWith path.reverse part error := by
    have htop : ([] : List PathStep).length ≤ maxDepth := Nat.zero_le maxDepth
    obtain ⟨path, part, first, hlength, hwith⟩ := exists_firstRefused ordered htop h
    rw [List.append_nil] at hlength hwith
    rw [List.length_reverse] at hlength
    exact ⟨path, part, first, hlength, hwith⟩
  refine ⟨⟨?_, fun h => ?_⟩, fun scalar h => asValue_of_captureAt ordered h, fun error h => ?_,
    fun other h => ?_⟩
  · rintro ⟨scalar, h⟩ path part shown
    have hadmitted := shows_of_captureAt h shown
    rw [List.length_nil, Nat.zero_add] at hadmitted
    exact hadmitted
  · cases hcapture : value.capture with
    | ok scalar => exact ⟨scalar, rfl⟩
    | error error =>
      obtain ⟨path, part, first, -⟩ := hrefused hcapture
      refine absurd (h path part first.shown) ?_
      have hnot := first.refused
      rwa [Nat.zero_add] at hnot
  · obtain ⟨path, part, first, hle, hwith⟩ := hrefused h
    refine ⟨path, part, first, ?_⟩
    rw [RefusedWith, List.length_reverse] at hwith
    obtain ⟨hdeep, rfl⟩ | ⟨hlength, obstacle, hobstacle, rfl⟩ := hwith
    · exact .inl ⟨Nat.le_antisymm hle hdeep, rfl⟩
    · exact .inr ⟨hlength, obstacle, hobstacle, rfl, displayTrail_reverse path⟩
  · have hsame : other.capture = value.capture := by
      rw [capture, capture, ← captureAt_visible, h, captureAt_visible]
    exact ⟨hsame, by rw [encodeReturned, encodeReturned, captureOutcome, captureOutcome, hsame]⟩

/-- A record with a handle in a private field, with a number that is none in an array, and with a
handle in the open behind it. -/
def report : Value :=
  ((((Record.new "Report").set "session" (.foreign 9)).set "_session" (.foreign 9)).set "items"
    (.array [.int 1, .float ⟨0x7FF8000000000000⟩])).toValue

/-- Of the three obstacles in the record the first that is shown is told. -/
theorem capture_decides_report :
    report.Ordered ∧ report.capture =
        .error (.unmarshallable [.item 1, .field "items"] (.nonFinite ⟨0x7FF8000000000000⟩)) ∧
      ∃ path part, report.FirstRefused 0 path part ∧ path.length < 60 ∧
        displayTrail path.reverse = "$.items[1]" ∧
        part.obstacle? = some (.nonFinite ⟨0x7FF8000000000000⟩) := by
  have ordered : report.Ordered := by
    refine Record.ordered_toValue fun field hfield => ?_
    obtain rfl | hfield := Fields.mem_insert hfield
    · refine .array (List.forall_mem_cons.2 ⟨.int 1, ?_⟩)
      exact List.forall_mem_singleton.2 (.float _)
    · obtain rfl | hfield := Fields.mem_insert hfield
      · exact .foreign 9
      · obtain rfl | hfield := Fields.mem_insert hfield
        · exact .foreign 9
        · cases hfield
  have hcapture : report.capture = .error (.unmarshallable [.item 1, .field "items"]
      (.nonFinite ⟨0x7FF8000000000000⟩)) := by rfl
  refine ⟨ordered, hcapture, ?_⟩
  obtain ⟨path, part, first, ⟨-, h⟩ | ⟨hlength, obstacle, hobstacle, h, -⟩⟩ :=
    (capture_decides ordered).2.2.1 _ hcapture
  · cases h
  · injection h with hpath hsame
    exact ⟨path, part, first, hlength, hpath ▸ by decide, hsame ▸ hobstacle⟩

end Value

end Isolation
