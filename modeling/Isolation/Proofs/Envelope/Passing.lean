import Isolation.Proofs.Envelope.Outcome

/-!
# Passing on what was read

Reading accepts more texts than are ever written: other spellings, arrays in place of objects, lists
that are left out. Whatever was read nests no deeper than its text did, but for one thing. A
diagnostic whose two lists were left out took a single level, and takes two when it is written
again. So an outcome can be passed on unless such a diagnostic stood at the limit.

## Main definitions

* `Diagnostic.generations` — how far the causes of a diagnostic go back

## Main results

* `Scalar.levels_of_ofNode?`, `Diagnostic.levels_of_ofNode?` — how deep what was read nests
* `Outcome.decode_encode_of_decode` — which outcomes can be passed on
* `Outcome.decode_not_passed` — two that cannot
-/

namespace Isolation

open Json

/-- What comes out of a traversal comes from one of the elements. -/
theorem exists_of_mem_mapM {α β : Type} {f : α → Option β} {xs : List α} {ys : List β}
    (h : xs.mapM f = some ys) {y : β} (hy : y ∈ ys) : ∃ x ∈ xs, f x = some y := by
  induction xs generalizing ys with
  | nil =>
    cases h
    cases hy
  | cons x xs ih =>
    rw [List.mapM_cons] at h
    obtain ⟨first, hfirst, h⟩ := Option.bind_eq_some_iff.1 h
    obtain ⟨rest, hrest, h⟩ := Option.bind_eq_some_iff.1 h
    cases h
    rcases List.mem_cons.1 hy with rfl | hy
    · exact ⟨x, List.mem_cons_self, hfirst⟩
    · obtain ⟨other, hother, hother'⟩ := ih hrest hy
      exact ⟨other, List.mem_cons_of_mem x hother, hother'⟩

namespace Scalar

/-- One level is enough for the union, but the array in it takes another. -/
theorem levels_array {items : List Scalar} {n : Nat}
    (h : ∀ item ∈ items, item.levels ≤ n ∧ item.Ordered) :
    (array items).levels ≤ n + 2 ∧ (array items).Ordered := by
  refine ⟨?_, .array fun item hitem => (h item hitem).2⟩
  have hlevels := levelsOfItems_le_iff.2 fun item hitem => (h item hitem).1
  rw [Scalar.levels]
  omega

/-- The object in a record takes another level as well. -/
theorem levels_record {fields : List (String × Scalar)} {n : Nat} (keys : Fields.Ordered fields)
    (h : ∀ field ∈ fields, field.2.levels ≤ n ∧ field.2.Ordered) :
    (record fields).levels ≤ n + 2 ∧ (record fields).Ordered := by
  refine ⟨?_, .record keys fun field hfield => (h field hfield).2⟩
  have hlevels := levelsOfFields_le_iff.2 fun field hfield => (h field hfield).1
  rw [Scalar.levels]
  omega

/-- A scalar that was read within a number of levels needs no more of them, however it was spelled,
and its fields are in order. -/
theorem levels_of_ofNode? {limit : Nat} {buffered : Bool} {node : Node} {scalar : Scalar}
    (h : ofNode? limit buffered node = some scalar) : scalar.levels ≤ limit ∧ scalar.Ordered := by
  induction limit using Nat.strongRecOn generalizing buffered node scalar with
  | _ limit ih =>
    cases limit with
    | zero => cases h
    | succ limit =>
      rw [ofNode?] at h
      obtain ⟨tagged, -, h⟩ := Option.bind_eq_some_iff.1 h
      obtain ⟨kind, -, h⟩ := Option.bind_eq_some_iff.1 h
      split at h
      · cases h
        exact ⟨Nat.le_add_left 1 limit, .null⟩
      · cases h
        exact ⟨Nat.le_add_left 1 limit, .null⟩
      · cases h
        exact ⟨Nat.le_add_left 1 limit, .bool _⟩
      · obtain ⟨n, -, rfl⟩ := Option.map_eq_some_iff.1 h
        exact ⟨Nat.le_add_left 1 limit, .int n⟩
      · obtain ⟨x, -, rfl⟩ := Option.map_eq_some_iff.1 h
        exact ⟨Nat.le_add_left 1 limit, .float x⟩
      · obtain ⟨text, -, rfl⟩ := Option.map_eq_some_iff.1 h
        exact ⟨Nat.le_add_left 1 limit, .str text⟩
      · cases limit with
        | zero => cases h
        | succ levels =>
          obtain ⟨items, hitems, rfl⟩ := Option.map_eq_some_iff.1 h
          refine levels_array fun item hitem => ?_
          obtain ⟨node, -, hnode⟩ := exists_of_mem_mapM hitems hitem
          exact ih levels (by omega) hnode
      · cases limit with
        | zero => cases h
        | succ levels =>
          obtain ⟨pairs, hpairs, h⟩ := Option.bind_eq_some_iff.1 h
          cases h
          refine levels_record (Fields.ordered_ofList pairs) fun field hfield => ?_
          obtain ⟨member, -, hmember⟩ := exists_of_mem_mapM hpairs (Fields.mem_ofList hfield)
          obtain ⟨name, -, hmember⟩ := Option.bind_eq_some_iff.1 hmember
          obtain ⟨value, hvalue, hmember⟩ := Option.bind_eq_some_iff.1 hmember
          cases hmember
          exact ih levels (by omega) hvalue
      · cases h

end Scalar

namespace Diagnostic

mutual

/-- How many diagnostics the longest line of causes has, from a diagnostic down. -/
def generations : Diagnostic → Nat
  | mk _ _ causes => generationsOf causes + 1

/-- The greatest number of generations among several diagnostics. -/
def generationsOf : List Diagnostic → Nat
  | [] => 0
  | cause :: causes => max cause.generations (generationsOf causes)

end

mutual

/-- A generation takes two levels, and the frames of the last one may take another. -/
theorem levels_bounds : ∀ diagnostic : Diagnostic,
    2 * diagnostic.generations ≤ diagnostic.levels ∧
      diagnostic.levels ≤ 2 * diagnostic.generations + 1
  | mk _ frames causes => by
    have hframes : (if frames = [] then 0 else 1) ≤ 1 := by split <;> omega
    obtain ⟨hlow, hhigh⟩ := levelsOf_bounds causes
    rw [levels, generations]
    omega

theorem levelsOf_bounds : ∀ causes : List Diagnostic,
    2 * generationsOf causes ≤ levelsOf causes ∧ levelsOf causes ≤ 2 * generationsOf causes + 1
  | [] => ⟨Nat.le_refl 0, Nat.zero_le 1⟩
  | cause :: causes => by
    obtain ⟨hlow, hhigh⟩ := levels_bounds cause
    obtain ⟨hlow', hhigh'⟩ := levelsOf_bounds causes
    rw [levelsOf, generationsOf]
    omega

end

theorem levelsOf_le_iff {causes : List Diagnostic} {n : Nat} :
    levelsOf causes ≤ n ↔ ∀ cause ∈ causes, cause.levels ≤ n := by
  induction causes with
  | nil => exact ⟨fun _ => nofun, fun _ => Nat.zero_le n⟩
  | cons cause causes ih => rw [levelsOf, Nat.max_le, ih, List.forall_mem_cons]

/-- A diagnostic that was read within a number of levels may need one more, for its lists or those
of a cause may have been left out. -/
theorem levels_of_ofNode? {limit : Nat} {node : Node} {diagnostic : Diagnostic}
    (h : ofNode? limit node = some diagnostic) : diagnostic.levels ≤ limit + 1 := by
  induction limit using Nat.strongRecOn generalizing node diagnostic with
  | _ limit ih =>
    cases limit with
    | zero => cases h
    | succ limit =>
      rw [ofNode?] at h
      obtain ⟨fields, -, h⟩ := Option.bind_eq_some_iff.1 h
      obtain ⟨field, -, h⟩ := Option.bind_eq_some_iff.1 h
      obtain ⟨message, -, h⟩ := Option.bind_eq_some_iff.1 h
      cases limit with
      | zero =>
        dsimp only at h
        split at h
        · cases h
          exact Nat.le_refl 2
        · cases h
      | succ levels =>
        obtain ⟨frameNodes, -, h⟩ := Option.bind_eq_some_iff.1 h
        obtain ⟨frames, hframes, h⟩ := Option.bind_eq_some_iff.1 h
        obtain ⟨causeNodes, -, h⟩ := Option.bind_eq_some_iff.1 h
        obtain ⟨causes, hcauses, h⟩ := Option.bind_eq_some_iff.1 h
        cases h
        have hframe : (if frames = [] then 0 else 1) ≤ levels + 1 := by split <;> omega
        have hcause : levelsOf causes ≤ levels + 1 := by
          refine levelsOf_le_iff.2 fun cause hmem => ?_
          obtain ⟨node, -, hnode⟩ := exists_of_mem_mapM hcauses hmem
          exact ih levels (by omega) hnode
        rw [Diagnostic.levels]
        omega

end Diagnostic

namespace Outcome

/-- How far the causes of an outcome go back; success has none. -/
def generations : Outcome → Nat
  | success _ => 0
  | failure diagnostic => diagnostic.generations

/-- The greatest number of generations that an envelope has room for. -/
def maxGenerations : Nat := 62

theorem levels_of_ofNode? {limit : Nat} {node : Node} {outcome : Outcome}
    (h : ofNode? limit node = some outcome) :
    outcome.Ordered ∧ match outcome with
      | success value => value.levels < limit
      | failure diagnostic => diagnostic.levels ≤ limit := by
  cases limit with
  | zero => cases h
  | succ limit =>
    rw [ofNode?] at h
    obtain ⟨tagged, -, h⟩ := Option.bind_eq_some_iff.1 h
    obtain ⟨content, -, h⟩ := Option.bind_eq_some_iff.1 h
    split at h
    · obtain ⟨value, hvalue, rfl⟩ := Option.map_eq_some_iff.1 h
      obtain ⟨hlevels, ordered⟩ := Scalar.levels_of_ofNode? hvalue
      exact ⟨ordered, Nat.lt_succ_of_le hlevels⟩
    · split at h
      · obtain ⟨diagnostic, hdiagnostic, rfl⟩ := Option.map_eq_some_iff.1 h
        exact ⟨trivial, Diagnostic.levels_of_ofNode? hdiagnostic⟩
      · cases h

end Outcome

/-- What is read from an envelope is read from its body. -/
theorem Envelope.exists_of_unwrap {α : Type} {read? : Nat → Node → Option α} {bytes : List UInt8}
    {value : α} (h : unwrap read? bytes = .ok value) :
    ∃ body, read? (maxLevels - 1) body = some value := by
  rw [unwrap] at h
  split at h
  · cases h
  · split at h
    · cases h
    · split at h
      · cases h
      · dsimp only at h
        split at h
        · next found =>
          cases h
          obtain ⟨body, -, hbody⟩ := Option.bind_eq_some_iff.1 found
          exact ⟨body, hbody⟩
        · cases h

namespace Outcome

/-- Whatever was read can be passed on, as far as its floating-point numbers are read back from what
is written for them: success always, and a failure if its causes go back no further than an
envelope has room for. They may go back one generation further, if in the text the last one had
neither frames nor causes. -/
theorem decode_encode_of_decode {bytes : List UInt8} {outcome : Outcome}
    (read : decode bytes = .ok outcome) (reading : ∀ x ∈ outcome.floats, x.Rereads) :
    outcome.generations ≤ maxGenerations + 1 ∧
      decode outcome.encode =
        if outcome.generations ≤ maxGenerations then .ok outcome else .error .malformed := by
  obtain ⟨body, hbody⟩ := Envelope.exists_of_unwrap read
  obtain ⟨ordered, hlevels⟩ := levels_of_ofNode? hbody
  rw [decode_encode, (reread?_eq_some_iff ordered).2 reading]
  cases outcome with
  | success value =>
    have hroom : (success value).levels < Envelope.maxLevels := by
      rw [levels]
      simp only [Envelope.maxLevels] at hlevels ⊢
      omega
    rw [if_pos hroom]
    exact ⟨Nat.zero_le _, rfl⟩
  | failure diagnostic =>
    obtain ⟨hlow, hhigh⟩ := diagnostic.levels_bounds
    have hroom : (failure diagnostic).levels < Envelope.maxLevels ↔
        (failure diagnostic).generations ≤ maxGenerations := by
      rw [levels, generations]
      simp only [Envelope.maxLevels, maxGenerations]
      omega
    simp only [Envelope.maxLevels] at hlevels
    refine ⟨?_, ?_⟩
    · simp only [generations, maxGenerations]
      omega
    · simp only [hroom]
      split <;> rfl

end Outcome

/-! ### What cannot be passed on -/

namespace Diagnostic

/-- A diagnostic with a number of generations behind it, all without frames. -/
def lineage : Nat → Diagnostic
  | 0 => mk "m" [] []
  | n + 1 => mk "m" [] [lineage n]

/-- The same as a document in which empty lists are left out. -/
def terse : Nat → Node
  | 0 => .ofFields [("message", .ofString "m")]
  | n + 1 => .ofFields [("message", .ofString "m"), ("causes", .array [terse n])]

theorem generations_lineage (n : Nat) : (lineage n).generations = n + 1 := by
  induction n with
  | zero => rfl
  | succ n ih => rw [lineage, generations, generationsOf, generationsOf, ih, Nat.max_zero]

theorem sound_terse (n : Nat) : (terse n).Sound := by
  induction n with
  | zero => exact Node.sound_ofFields (List.forall_mem_singleton.2 (Node.sound_ofString "m"))
  | succ n ih =>
    exact Node.sound_ofFields (List.forall_mem_cons.2 ⟨Node.sound_ofString "m",
      List.forall_mem_singleton.2 (.array (List.forall_mem_singleton.2 ih))⟩)

/-- The last generation needs a single level, and each before it two. -/
theorem ofNode?_terse (n spare : Nat) :
    ofNode? (2 * n + spare + 1) (terse n) = some (lineage n) := by
  induction n with
  | zero =>
    have distinct : ([("message", Node.ofString "m")].map Prod.fst).Nodup := by simp
    rw [terse, ofNode?, Node.fields?_ofFields _ distinct]
    cases spare <;> simp [Node.field?, Node.asString?_ofString, optionalItems?, lineage]
  | succ n ih =>
    have distinct : ([("message", Node.ofString "m"), ("causes", Node.array [terse n])].map
        Prod.fst).Nodup := by simp
    have hlimit : 2 * (n + 1) + spare + 1 = 2 * n + spare + 1 + 2 := by omega
    rw [terse, hlimit, ofNode?, Node.fields?_ofFields _ distinct]
    simp [Node.field?, Node.asString?_ofString, optionalItems?, ih, lineage]

end Diagnostic

namespace Outcome

/-- A failure with a number of generations behind it, tersely. -/
def terse (n : Nat) : List UInt8 :=
  Envelope.wrap (.ofFields [("outcome", .ofString "failure"), ("data", Diagnostic.terse n)])

/-- As many generations are read as there are levels for. -/
theorem decode_terse {n : Nat} (h : n ≤ maxGenerations) :
    decode (terse n) = .ok (.failure (Diagnostic.lineage n)) := by
  have sound : (Node.ofFields [("outcome", .ofString "failure"),
      ("data", Diagnostic.terse n)]).Sound :=
    Node.sound_ofFields (List.forall_mem_cons.2 ⟨Node.sound_ofString _,
      List.forall_mem_singleton.2 (Diagnostic.sound_terse n)⟩)
  have hne : "failure" ≠ "success" := by decide
  have hread : Diagnostic.ofNode? 125 (Diagnostic.terse n) = some (Diagnostic.lineage n) := by
    have hlimit : 125 = 2 * n + (124 - 2 * n) + 1 := by
      rw [maxGenerations] at h
      omega
    rw [hlimit, Diagnostic.ofNode?_terse]
  rw [decode, terse, Envelope.unwrap_wrap _ sound, Envelope.maxLevels, ofNode?,
    Node.tagged?_ofFields (by decide)]
  simp only [Option.bind_eq_bind, Option.bind_some, hne, if_false, if_true, hread]
  rfl

/-- As many generations as an envelope has room for can be passed on. -/
theorem decode_encode_of_decode_terse :
    decode (terse 61) = .ok (.failure (Diagnostic.lineage 61)) ∧
      decode (encode (.failure (Diagnostic.lineage 61))) =
        .ok (.failure (Diagnostic.lineage 61)) := by
  have read := decode_terse (n := 61) (by decide)
  have hroom : (failure (Diagnostic.lineage 61)).generations ≤ maxGenerations := by
    rw [generations, Diagnostic.generations_lineage, maxGenerations]
  obtain ⟨-, again⟩ := decode_encode_of_decode read nofun
  rw [if_pos hroom] at again
  exact ⟨read, again⟩

/-- A floating-point number, as it is spelled. -/
def spelled (n : Number) : List UInt8 :=
  Envelope.wrap (.ofFields [("outcome", .ofString "success"),
    ("data", Scalar.taggedNode .float (some (.number n)))])

theorem decode_spelled {n : Number} {x : Binary64} (sound : n.Sound) (h : n.toFloat? = some x) :
    decode (spelled n) = .ok (.success (.float x)) := by
  have hsound : (Node.ofFields [("outcome", .ofString "success"),
      ("data", Scalar.taggedNode .float (some (.number n)))]).Sound := by
    refine Node.sound_ofFields (List.forall_mem_cons.2 ⟨Node.sound_ofString _,
      List.forall_mem_singleton.2 (Scalar.sound_taggedNode ?_)⟩)
    rintro node ⟨⟩
    exact .number sound
  have hread : Scalar.ofNode? 125 false (Scalar.taggedNode .float (some (.number n))) =
      some (.float x) := by
    rw [Scalar.ofNode?, Scalar.tagged?_taggedNode]
    simp only [Option.bind_eq_bind, Option.bind_some, Scalar.Kind.ofTag?_tag, h, Option.map_some]
  rw [decode, spelled, Envelope.unwrap_wrap _ hsound, Envelope.maxLevels, ofNode?,
    Node.tagged?_ofFields (by decide)]
  simp only [Option.bind_eq_bind, Option.bind_some, if_true, hread]
  rfl

/-- With one generation more the last one has to be written without its lists, which it never is.
And `1e-24` is read as the next larger number, whose text is read as the number below. -/
theorem decode_not_passed :
    (decode (terse 62) = .ok (.failure (Diagnostic.lineage 62)) ∧
      decode (encode (.failure (Diagnostic.lineage 62))) = .error .malformed) ∧
    decode (spelled ⟨false, [0x31], [], some (true, [0x32, 0x34])⟩) =
        .ok (.success (.float ⟨0x3AF357C299A88EA8⟩)) ∧
      decode (encode (.success (.float ⟨0x3AF357C299A88EA8⟩))) =
        .ok (.success (.float ⟨0x3AF357C299A88EA7⟩)) := by
  refine ⟨⟨decode_terse (by decide), ?_⟩, decode_spelled ?_ (by decide +kernel), ?_⟩
  · obtain ⟨hlow, -⟩ := (Diagnostic.lineage 62).levels_bounds
    rw [Diagnostic.generations_lineage] at hlow
    have hroom : ¬ (failure (Diagnostic.lineage 62)).levels < Envelope.maxLevels := by
      rw [levels, Envelope.maxLevels]
      omega
    rw [decode_encode, if_neg hroom]
    rfl
  · refine ⟨nofun, List.forall_mem_singleton.2 rfl, nofun, nofun, ?_⟩
    rintro e ⟨⟩
    exact ⟨nofun, List.forall_mem_cons.2 ⟨rfl, List.forall_mem_singleton.2 rfl⟩⟩
  · have hbits : (Number.ofFloat? ⟨0x3AF357C299A88EA8⟩).bind Number.toFloat? =
        some ⟨0x3AF357C299A88EA7⟩ := by decide +kernel
    rw [decode_encode, if_pos (by decide), reread?, Scalar.reread?, hbits]
    rfl

end Outcome

end Isolation
