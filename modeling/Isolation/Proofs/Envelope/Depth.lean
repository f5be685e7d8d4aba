import Isolation.Proofs.Envelope.Outcome

/-!
# How deep outcomes may nest

The reader of envelopes counts levels as it goes down, and the writer counts nothing. So it takes a
comparison of the two to say which outcomes come back: a document nests as deep as the parts that
are read of it, three levels more than the heights of scalars and diagnostics say, and the limit is
met at the same document on both sides.

## Main definitions

* `Node.depth` — how deep arrays and objects nest in a document
* `Scalar.height`, `Diagnostic.height` — the same for data that is not written yet

## Main results

* `Scalar.depth_toNode`, `Diagnostic.depth_toNode` — a document takes as many levels as it nests
* `Scalar.exists_number_of_reread?` — a number without a written form is never read back
* `Outcome.decode_encode_eq_ok_iff` — which outcomes come back, and what becomes of the others
-/

namespace Isolation

open Json

namespace Json.Node

mutual

/-- How deep arrays and objects nest in a document. -/
def depth : Node → Nat
  | array items => depthOfItems items + 1
  | object members => depthOfMembers members + 1
  | _ => 0

/-- The greatest depth among several documents. -/
def depthOfItems : List Node → Nat
  | [] => 0
  | item :: items => max item.depth (depthOfItems items)

/-- The greatest depth among the values of several members. -/
def depthOfMembers : List (List UInt8 × Node) → Nat
  | [] => 0
  | (_, value) :: members => max value.depth (depthOfMembers members)

end

theorem depthOfItems_map {α : Type} (toNode : α → Node) {n : Nat} {xs : List α}
    (h : ∀ x ∈ xs, (toNode x).depth = n) :
    depthOfItems (xs.map toNode) = if xs = [] then 0 else n := by
  induction xs with
  | nil => rfl
  | cons x xs ih =>
    have hrest := ih fun other hother => h other (List.mem_cons_of_mem x hother)
    rw [List.map_cons, depthOfItems, h x List.mem_cons_self, hrest, if_neg (List.cons_ne_nil x xs)]
    split <;> omega

/-- An object nests one level more than the deepest of its members. -/
theorem depth_ofFields (fields : List (String × Node)) :
    (ofFields fields).depth = depthOfItems (fields.map Prod.snd) + 1 := by
  rw [ofFields, depth]
  induction fields with
  | nil => rfl
  | cons field fields ih =>
    rw [List.map_cons, List.map_cons, depthOfMembers, depthOfItems]
    omega

theorem depth_ofString (text : String) : (ofString text).depth = 0 := rfl

theorem depth_ofFloat (x : Binary64) : (ofFloat x).depth = 0 := by
  rw [ofFloat]
  cases Number.ofFloat? x <;> rfl

end Json.Node

namespace Scalar

mutual

/-- How deep a scalar nests below the object that tells its kind. Leaves do not; the items of an
array and the fields of a record stand in a list, each in an object of its own. -/
def height : Scalar → Nat
  | array items => heightOfItems items + 1
  | record fields => heightOfFields fields + 1
  | _ => 0

/-- How deep several scalars nest, with the objects that tell their kinds. -/
def heightOfItems : List Scalar → Nat
  | [] => 0
  | item :: items => max (item.height + 1) (heightOfItems items)

/-- How deep several fields nest, with the objects that tell their kinds. -/
def heightOfFields : List (String × Scalar) → Nat
  | [] => 0
  | (_, value) :: fields => max (value.height + 1) (heightOfFields fields)

end

mutual

/-- The object that tells the kind takes a level. -/
theorem levels_eq : ∀ scalar : Scalar, scalar.levels = scalar.height + 1
  | .array items => by rw [levels, height, levelsOfItems_eq items]
  | .record fields => by rw [levels, height, levelsOfFields_eq fields]
  | .null | .bool _ | .int _ | .float _ | .str _ => rfl

theorem levelsOfItems_eq : ∀ items : List Scalar, levelsOfItems items = heightOfItems items
  | [] => rfl
  | item :: items => by
    rw [levelsOfItems, heightOfItems, levels_eq item, levelsOfItems_eq items]

theorem levelsOfFields_eq : ∀ fields : List (String × Scalar),
    levelsOfFields fields = heightOfFields fields
  | [] => rfl
  | (_, value) :: fields => by
    rw [levelsOfFields, heightOfFields, levels_eq value, levelsOfFields_eq fields]

end

theorem depth_taggedNode (kind : Kind) (content : Node) :
    (taggedNode kind (some content)).depth = content.depth + 1 := by
  simp [taggedNode, Node.depth_ofFields, Node.depthOfItems, Node.depth_ofString]

mutual

/-- The document of a scalar takes as many levels as it nests. -/
theorem depth_toNode : ∀ scalar : Scalar, scalar.toNode.depth = scalar.levels
  | .null => rfl
  | .bool b => by
    rw [toNode, depth_taggedNode]
    rfl
  | .int n => by
    rw [toNode, depth_taggedNode]
    rfl
  | .float x => by
    rw [toNode, depth_taggedNode, Node.depth_ofFloat]
    rfl
  | .str text => by
    rw [toNode, depth_taggedNode]
    rfl
  | .array items => by
    rw [toNode, depth_taggedNode, Node.depth, depthOfItems_toNodes items, levels]
  | .record fields => by
    rw [toNode, depth_taggedNode, Node.depth, depthOfMembers_toMembers fields, levels]

theorem depthOfItems_toNodes : ∀ items : List Scalar,
    Node.depthOfItems (toNodes items) = levelsOfItems items
  | [] => rfl
  | item :: items => by
    rw [toNodes, Node.depthOfItems, levelsOfItems, depth_toNode item, depthOfItems_toNodes items]

theorem depthOfMembers_toMembers : ∀ fields : List (String × Scalar),
    Node.depthOfMembers (toMembers fields) = levelsOfFields fields
  | [] => rfl
  | (_, value) :: fields => by
    rw [toMembers, Node.depthOfMembers, levelsOfFields, depth_toNode value,
      depthOfMembers_toMembers fields]

end

mutual

/-- All floating-point numbers of a scalar that is read back have a written form: the others are
written as null, which no number is read from. -/
theorem exists_number_of_reread? : ∀ {scalar other : Scalar}, scalar.reread? = some other →
    ∀ x ∈ scalar.floats, ∃ n, Number.ofFloat? x = some n
  | .null, _, _ | .bool _, _, _ | .int _, _, _ | .str _, _, _ => nofun
  | .float x, other, h => by
    rw [reread?] at h
    obtain ⟨y, hy, -⟩ := Option.map_eq_some_iff.1 h
    obtain ⟨n, hn, -⟩ := Option.bind_eq_some_iff.1 hy
    rw [floats, List.forall_mem_singleton]
    exact ⟨n, hn⟩
  | .array items, other, h => by
    rw [reread?] at h
    obtain ⟨others, hothers, -⟩ := Option.map_eq_some_iff.1 h
    rw [floats]
    exact exists_number_of_rereadItems? hothers
  | .record fields, other, h => by
    rw [reread?] at h
    obtain ⟨pairs, hpairs, -⟩ := Option.map_eq_some_iff.1 h
    rw [floats]
    exact exists_number_of_rereadFields? hpairs

theorem exists_number_of_rereadItems? : ∀ {items others : List Scalar},
    rereadItems? items = some others →
      ∀ x ∈ floatsOfItems items, ∃ n, Number.ofFloat? x = some n
  | [], _, _ => nofun
  | item :: items, others, h => by
    rw [rereadItems?] at h
    obtain ⟨first, hfirst, h⟩ := Option.bind_eq_some_iff.1 h
    obtain ⟨rest, hrest, -⟩ := Option.bind_eq_some_iff.1 h
    rw [floatsOfItems, List.forall_mem_append]
    exact ⟨exists_number_of_reread? hfirst, exists_number_of_rereadItems? hrest⟩

theorem exists_number_of_rereadFields? : ∀ {fields pairs : List (String × Scalar)},
    rereadFields? fields = some pairs →
      ∀ x ∈ floatsOfFields fields, ∃ n, Number.ofFloat? x = some n
  | [], _, _ => nofun
  | (_, value) :: fields, pairs, h => by
    rw [rereadFields?] at h
    obtain ⟨first, hfirst, h⟩ := Option.bind_eq_some_iff.1 h
    obtain ⟨rest, hrest, -⟩ := Option.bind_eq_some_iff.1 h
    rw [floatsOfFields, List.forall_mem_append]
    exact ⟨exists_number_of_reread? hfirst, exists_number_of_rereadFields? hrest⟩

end

end Scalar

theorem Frame.depth_toNode (frame : Frame) : frame.toNode.depth = 1 := by
  obtain ⟨unit, member, location⟩ := frame
  cases location <;>
    simp [toNode, Node.depth_ofFields, Node.depthOfItems, Node.depth_ofString]

namespace Diagnostic

mutual

/-- How deep a diagnostic nests in its object: it has a list of frames and one of causes, even if
they are empty, and each frame and each cause stands in an object. -/
def height : Diagnostic → Nat
  | mk _ frames causes => max (if frames = [] then 0 else 1) (heightOf causes) + 1

/-- How deep several diagnostics nest, with their objects. -/
def heightOf : List Diagnostic → Nat
  | [] => 0
  | cause :: causes => max (cause.height + 1) (heightOf causes)

end

mutual

/-- The object of a diagnostic takes a level. -/
theorem levels_eq : ∀ diagnostic : Diagnostic, diagnostic.levels = diagnostic.height + 1
  | mk _ frames causes => by rw [levels, height, levelsOf_eq causes]

theorem levelsOf_eq : ∀ causes : List Diagnostic, levelsOf causes = heightOf causes
  | [] => rfl
  | cause :: causes => by rw [levelsOf, heightOf, levels_eq cause, levelsOf_eq causes]

end

mutual

/-- The document of a diagnostic takes as many levels as it nests. -/
theorem depth_toNode : ∀ diagnostic : Diagnostic, diagnostic.toNode.depth = diagnostic.levels
  | mk message frames causes => by
    have hframes := Node.depthOfItems_map Frame.toNode fun frame (_ : frame ∈ frames) =>
      frame.depth_toNode
    have hcauses := depthOfItems_toNodes causes
    simp only [toNode, Node.depth_ofFields, List.map_cons, List.map_nil, Node.depthOfItems,
      Node.depth_ofString, Node.depth, hframes, hcauses, levels]
    omega

theorem depthOfItems_toNodes : ∀ causes : List Diagnostic,
    Node.depthOfItems (toNodes causes) = levelsOf causes
  | [] => rfl
  | cause :: causes => by
    rw [toNodes, Node.depthOfItems, levelsOf, depth_toNode cause, depthOfItems_toNodes causes]

end

end Diagnostic

/-- A body in an envelope is written as a document, which nests a level more. -/
theorem Envelope.exists_parse?_wrap {body : Node} (sound : body.Sound) :
    ∃ document, Node.parse? (wrap body) = some document ∧ document.depth = body.depth + 1 := by
  refine ⟨_, (sound_ofFields sound).parse?_render, ?_⟩
  have hversion : (Node.ofInt formatVersion).depth = 0 := rfl
  simp [Node.depth_ofFields, Node.depthOfItems, hversion]

namespace Outcome

/-- How deep what an outcome carries nests below its object. -/
def height : Outcome → Nat
  | success value => value.height
  | failure diagnostic => diagnostic.height

/-- The object of the outcome and the one of what it carries take a level each. -/
theorem levels_eq (outcome : Outcome) : outcome.levels = outcome.height + 2 := by
  cases outcome with
  | success value => rw [levels, value.levels_eq, height]
  | failure diagnostic => rw [levels, diagnostic.levels_eq, height]

theorem depth_toNode (outcome : Outcome) : outcome.toNode.depth = outcome.levels := by
  cases outcome with
  | success value =>
    simp [toNode, Node.depth_ofFields, Node.depthOfItems, Node.depth_ofString,
      value.depth_toNode, levels]
  | failure diagnostic =>
    simp [toNode, Node.depth_ofFields, Node.depthOfItems, Node.depth_ofString,
      diagnostic.depth_toNode, levels]

theorem exists_number_of_reread? {outcome other : Outcome} (h : outcome.reread? = some other) :
    ∀ x ∈ outcome.floats, ∃ n, Number.ofFloat? x = some n := by
  cases outcome with
  | success value =>
    obtain ⟨scalar, hscalar, -⟩ := Option.map_eq_some_iff.1 h
    exact Scalar.exists_number_of_reread? hscalar
  | failure diagnostic => exact nofun

/-- If finite numbers are read back from their texts, an outcome is read back as it is, or one of
its numbers is not finite and it is not read back at all. -/
theorem reread?_cases {outcome : Outcome} (ordered : outcome.Ordered)
    (reading : ∀ x ∈ outcome.floats, x.isFinite = true → x.Rereads) :
    (outcome.reread? = some outcome ∧ ∀ x ∈ outcome.floats, x.isFinite = true) ∨
      outcome.reread? = none ∧ ¬ ∀ x ∈ outcome.floats, x.isFinite = true := by
  by_cases finite : ∀ x ∈ outcome.floats, x.isFinite = true
  · exact .inl ⟨(reread?_eq_some_iff ordered).2 fun x hx => reading x hx (finite x hx), finite⟩
  · refine .inr ⟨?_, finite⟩
    cases h : outcome.reread? with
    | none => rfl
    | some other =>
      -- what has a written form is finite
      refine absurd (fun x hx => ?_) finite
      obtain ⟨n, hn⟩ := exists_number_of_reread? h x hx
      by_contra hfinite
      rw [Number.ofFloat?, if_neg hfinite] at hn
      cases hn

/-- Which outcomes come back, if finite numbers are read back from their texts: those of which all
numbers are finite and the text nests to the limit at most. How deep it nests can be told from the
outcome. What does not come back as it was is not read at all. -/
theorem decode_encode_eq_ok_iff {outcome : Outcome} (ordered : outcome.Ordered)
    (reading : ∀ x ∈ outcome.floats, x.isFinite = true → x.Rereads) :
    ∃ document, Node.parse? outcome.encode = some document ∧
      document.depth = 3 + outcome.height ∧
      (decode outcome.encode = .ok outcome ↔
        (∀ x ∈ outcome.floats, x.isFinite = true) ∧ document.depth ≤ 127) ∧
      (¬ ((∀ x ∈ outcome.floats, x.isFinite = true) ∧ document.depth ≤ 127) →
        decode outcome.encode = .error .malformed) := by
  obtain ⟨document, hdocument, hdepth⟩ := Envelope.exists_parse?_wrap outcome.sound_toNode
  rw [depth_toNode, levels_eq] at hdepth
  have hlevels : outcome.levels < Envelope.maxLevels ↔ document.depth ≤ 127 := by
    rw [levels_eq, hdepth, Envelope.maxLevels]
    omega
  refine ⟨document, hdocument, by omega, ?_⟩
  rw [decode_encode]
  by_cases hdeep : document.depth ≤ 127
  · rw [if_pos (hlevels.2 hdeep)]
    obtain ⟨hreread, finite⟩ | ⟨hreread, infinite⟩ := reread?_cases ordered reading
    · rw [hreread]
      exact ⟨⟨fun _ => ⟨finite, hdeep⟩, fun _ => rfl⟩, fun h => absurd ⟨finite, hdeep⟩ h⟩
    · rw [hreread]
      exact ⟨⟨nofun, fun h => absurd h.1 infinite⟩, fun _ => rfl⟩
  · rw [if_neg (mt hlevels.1 hdeep)]
    exact ⟨⟨nofun, fun h => absurd h.2 hdeep⟩, fun _ => rfl⟩

end Outcome

/-! ### At the limit -/

/-- A scalar in a number of arrays around each other. -/
def Scalar.nested (scalar : Scalar) : Nat → Scalar
  | 0 => scalar
  | n + 1 => .array [scalar.nested n]

theorem Scalar.ordered_nested {scalar : Scalar} (ordered : scalar.Ordered) (n : Nat) :
    (scalar.nested n).Ordered := by
  induction n with
  | zero => exact ordered
  | succ n ih => exact .array (List.forall_mem_singleton.2 ih)

theorem Scalar.height_nested (scalar : Scalar) (n : Nat) :
    (scalar.nested n).height = scalar.height + 2 * n := by
  induction n with
  | zero => rfl
  | succ n ih =>
    rw [nested, height, heightOfItems, heightOfItems, ih]
    omega

theorem Scalar.floats_nested (scalar : Scalar) (n : Nat) :
    (scalar.nested n).floats = scalar.floats := by
  induction n with
  | zero => rfl
  | succ n ih => rw [nested, floats, floatsOfItems, floatsOfItems, ih, List.append_nil]

/-- One half in as many arrays as the limit allows comes back, and in one more it does not. -/
theorem Outcome.decode_encode_nested :
    decode (encode (.success ((Scalar.float ⟨0x3FE0000000000000⟩).nested 62))) =
        .ok (.success ((Scalar.float ⟨0x3FE0000000000000⟩).nested 62)) ∧
      decode (encode (.success ((Scalar.float ⟨0x3FE0000000000000⟩).nested 63))) =
        .error .malformed := by
  have ordered (n : Nat) :
      (Outcome.success ((Scalar.float ⟨0x3FE0000000000000⟩).nested n)).Ordered :=
    Scalar.ordered_nested (.float _) n
  have half (n : Nat) :
      ∀ x ∈ (Outcome.success ((Scalar.float ⟨0x3FE0000000000000⟩).nested n)).floats,
        x.isFinite = true ∧ x.Rereads := by
    rw [floats, Scalar.floats_nested]
    decide +kernel
  have height (n : Nat) :
      (Outcome.success ((Scalar.float ⟨0x3FE0000000000000⟩).nested n)).height = 2 * n := by
    have hleaf : (Scalar.float ⟨0x3FE0000000000000⟩).height = 0 := rfl
    rw [Outcome.height, Scalar.height_nested, hleaf, Nat.zero_add]
  obtain ⟨document, -, hdepth, hok, -⟩ :=
    decode_encode_eq_ok_iff (ordered 62) fun x hx _ => (half 62 x hx).2
  obtain ⟨document', -, hdepth', -, hmalformed⟩ :=
    decode_encode_eq_ok_iff (ordered 63) fun x hx _ => (half 63 x hx).2
  rw [height] at hdepth hdepth'
  exact ⟨hok.2 ⟨fun x hx => (half 62 x hx).1, by omega⟩, hmalformed fun h => by omega⟩

end Isolation
