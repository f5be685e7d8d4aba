import Isolation.Envelope.Basic
import Isolation.Proofs.Envelope.Scalar

/-!
# Outcomes survive marshaling

Diagnostics hold nothing but text, so they come back as they were if the limit leaves them enough
levels. With this and the law for scalars it is known what every outcome is read back as, first as a
document and then as the bytes of an envelope.

## Main definitions

* `Diagnostic.levels`, `Outcome.levels` — how deep the parts that are read nest
* `Outcome.reread?` — what comes back of an outcome that is not too deep
* `Outcome.floats`, `Outcome.Ordered` — on what it depends that nothing changes

## Main results

* `Diagnostic.ofNode?_toNode`, `Outcome.ofNode?_toNode` — documents
* `Envelope.unwrap_wrap` — a body in an envelope
* `Outcome.decode_encode` — bytes
-/

namespace Isolation

open Json

namespace Frame

theorem sound_toNode (frame : Frame) : frame.toNode.Sound := by
  refine Node.sound_ofFields fun field hfield => ?_
  rcases List.mem_append.1 hfield with hfield | hfield
  · rcases List.mem_cons.1 hfield with rfl | hfield
    · exact Node.sound_ofString _
    · rw [List.mem_singleton.1 hfield]
      exact Node.sound_ofString _
  · obtain ⟨node, hnode, rfl⟩ := Option.map_eq_some_iff.1 (Option.mem_toList.1 hfield)
    exact Node.sound_ofString _

/-- A frame takes one level. -/
theorem ofNode?_toNode (limit : Nat) (frame : Frame) :
    ofNode? (limit + 1) frame.toNode = some frame := by
  obtain ⟨unit, member, location⟩ := frame
  rw [ofNode?, toNode]
  cases location with
  | none =>
    have distinct : ([("unit", Node.ofString unit), ("member", Node.ofString member)].map
        Prod.fst).Nodup := by simp
    simp only [Option.map_none, Option.toList_none, List.append_nil,
      Node.fields?_ofFields _ distinct]
    simp [Node.field?, Node.asString?_ofString]
  | some location =>
    have distinct : ([("unit", Node.ofString unit), ("member", Node.ofString member),
        ("location", Node.ofString location)].map Prod.fst).Nodup := by simp
    simp only [Option.map_some, Option.toList_some, List.cons_append, List.nil_append,
      Node.fields?_ofFields _ distinct]
    simp [Node.field?, Node.ofString, Node.asString?, unquoted?_quoted]

end Frame

namespace Diagnostic

mutual

/-- The number of levels that a diagnostic takes: a structure, the lists of its frames and of its
causes, and what these hold. -/
def levels : Diagnostic → Nat
  | mk _ frames causes => max (if frames = [] then 0 else 1) (levelsOf causes) + 2

/-- The greatest number of levels among several diagnostics. -/
def levelsOf : List Diagnostic → Nat
  | [] => 0
  | cause :: causes => max cause.levels (levelsOf causes)

end

mutual

/-- Diagnostics are written as sound documents. -/
theorem sound_toNode : ∀ diagnostic : Diagnostic, diagnostic.toNode.Sound
  | mk message frames causes => by
    refine Node.sound_ofFields fun field hfield => ?_
    simp only [List.mem_cons, List.not_mem_nil, or_false] at hfield
    rcases hfield with rfl | rfl | rfl
    · exact Node.sound_ofString message
    · refine .array fun node hnode => ?_
      obtain ⟨frame, -, rfl⟩ := List.mem_map.1 hnode
      exact frame.sound_toNode
    · exact .array (sound_toNodes causes)

theorem sound_toNodes : ∀ causes : List Diagnostic, ∀ node ∈ toNodes causes, node.Sound
  | [] => nofun
  | cause :: causes => by
    intro node hnode
    rcases List.mem_cons.1 hnode with rfl | hnode
    · exact sound_toNode cause
    · exact sound_toNodes causes node hnode

end

/-- The frames of a diagnostic need a level if there are any. -/
theorem mapM_frames (limit : Nat) (frames : List Frame) :
    (frames.map Frame.toNode).mapM (Frame.ofNode? limit) =
      if (if frames = [] then 0 else 1) ≤ limit then some frames else none := by
  cases limit with
  | zero => cases frames <;> rfl
  | succ limit =>
    have hle : (if frames = [] then 0 else 1) ≤ limit + 1 := by split <;> omega
    rw [if_pos hle]
    induction frames with
    | nil => rfl
    | cons frame frames ih =>
      rw [List.map_cons, List.mapM_cons, Frame.ofNode?_toNode, ih (by split <;> omega)]
      rfl

theorem ofNode?_one (diagnostic : Diagnostic) : ofNode? 1 diagnostic.toNode = none := by
  obtain ⟨message, frames, causes⟩ := diagnostic
  have distinct : ([("message", Node.ofString message),
      ("frames", Node.array (frames.map Frame.toNode)),
      ("causes", Node.array (toNodes causes))].map Prod.fst).Nodup := by simp
  rw [toNode, ofNode?, Node.fields?_ofFields _ distinct]
  simp [Node.field?]

theorem ofNode?_mk (limit : Nat) (message : String) (frames : List Frame)
    (causes : List Diagnostic) :
    ofNode? (limit + 2) (mk message frames causes).toNode = do
      let frames ← (frames.map Frame.toNode).mapM (Frame.ofNode? limit)
      let causes ← (toNodes causes).mapM (ofNode? limit)
      return mk message frames causes := by
  have distinct : ([("message", Node.ofString message),
      ("frames", Node.array (frames.map Frame.toNode)),
      ("causes", Node.array (toNodes causes))].map Prod.fst).Nodup := by simp
  rw [toNode, ofNode?, Node.fields?_ofFields _ distinct]
  simp [Node.field?, Node.asString?_ofString, optionalItems?]

mutual

/-- What a diagnostic is read back as within a number of levels, exactly. -/
theorem ofNode?_toNode (limit : Nat) : ∀ diagnostic : Diagnostic,
    ofNode? limit diagnostic.toNode = if diagnostic.levels ≤ limit then some diagnostic else none
  | mk message frames causes => by
    have hlevels : (mk message frames causes).levels =
        max (if frames = [] then 0 else 1) (levelsOf causes) + 2 := by rw [levels]
    match limit with
    | 0 => rw [ofNode?, if_neg (by omega)]
    -- its two lists are always written, and take a level even if they are empty
    | 1 => rw [ofNode?_one, if_neg (by omega)]
    | limit + 2 =>
      have hall : (mk message frames causes).levels ≤ limit + 2 ↔
          max (if frames = [] then 0 else 1) (levelsOf causes) ≤ limit := by omega
      rw [ofNode?_mk, mapM_frames, mapM_toNodes limit causes]
      simp only [hall]
      -- both lists stand side by side, so the deeper of them decides
      exact bind_within (some frames) (some causes) (mk message)

theorem mapM_toNodes (limit : Nat) : ∀ causes : List Diagnostic,
    (toNodes causes).mapM (ofNode? limit) =
      if levelsOf causes ≤ limit then some causes else none
  | [] => rfl
  | cause :: causes => by
    have hlevels : levelsOf (cause :: causes) = max cause.levels (levelsOf causes) := by
      rw [levelsOf]
    rw [toNodes, List.mapM_cons, ofNode?_toNode limit cause, mapM_toNodes limit causes, hlevels]
    exact bind_within (some cause) (some causes) List.cons

end

end Diagnostic

namespace Outcome

/-- The number of levels that an outcome takes. -/
def levels : Outcome → Nat
  | success value => value.levels + 1
  | failure diagnostic => diagnostic.levels + 1

/-- What an outcome is read back as. -/
def reread? : Outcome → Option Outcome
  | success value => value.reread?.map success
  | failure diagnostic => some (failure diagnostic)

/-- The floating-point numbers in an outcome. -/
def floats : Outcome → List Binary64
  | success value => value.floats
  | failure _ => []

/-- The fields of all records in an outcome are in order. -/
def Ordered : Outcome → Prop
  | success value => value.Ordered
  | failure _ => True

/-- What is read back of an outcome is the outcome itself, as far as its floating-point numbers are
concerned. -/
theorem reread?_eq_some_iff {outcome : Outcome} (ordered : outcome.Ordered) :
    outcome.reread? = some outcome ↔ ∀ x ∈ outcome.floats, x.Rereads := by
  cases outcome with
  | success value =>
    rw [reread?, floats, ← Scalar.reread?_eq_some_iff ordered]
    simp
  | failure diagnostic => simp [reread?, floats]

theorem sound_toNode (outcome : Outcome) : outcome.toNode.Sound := by
  cases outcome with
  | success value =>
    refine Node.sound_ofFields fun field hfield => ?_
    rcases List.mem_cons.1 hfield with rfl | hfield
    · exact Node.sound_ofString _
    · rw [List.mem_singleton.1 hfield]
      exact value.sound_toNode
  | failure diagnostic =>
    refine Node.sound_ofFields fun field hfield => ?_
    rcases List.mem_cons.1 hfield with rfl | hfield
    · exact Node.sound_ofString _
    · rw [List.mem_singleton.1 hfield]
      exact diagnostic.sound_toNode

/-- What an outcome is read back as within a number of levels, exactly. -/
theorem ofNode?_toNode (limit : Nat) (outcome : Outcome) :
    ofNode? limit outcome.toNode = if outcome.levels ≤ limit then outcome.reread? else none := by
  cases limit with
  | zero => cases outcome <;> rfl
  | succ limit =>
    cases outcome with
    | success value =>
      have hlevels : (success value).levels = value.levels + 1 := rfl
      rw [ofNode?, toNode, Node.tagged?_ofFields (by decide)]
      simp only [Option.bind_eq_bind, Option.bind_some, if_true, value.ofNode?_toNode]
      by_cases h : value.levels ≤ limit
      · have hall : (success value).levels ≤ limit + 1 := by omega
        rw [if_pos h, if_pos hall, reread?]
      · have hall : ¬ (success value).levels ≤ limit + 1 := by omega
        rw [if_neg h, if_neg hall, Option.map_none]
    | failure diagnostic =>
      have hlevels : (failure diagnostic).levels = diagnostic.levels + 1 := rfl
      -- the tag for success is tried first
      have hne : "failure" ≠ "success" := by decide
      rw [ofNode?, toNode, Node.tagged?_ofFields (by decide)]
      simp only [Option.bind_eq_bind, Option.bind_some, hne, if_false, if_true,
        diagnostic.ofNode?_toNode]
      by_cases h : diagnostic.levels ≤ limit
      · have hall : (failure diagnostic).levels ≤ limit + 1 := by omega
        rw [if_pos h, if_pos hall, reread?, Option.map_some]
      · have hall : ¬ (failure diagnostic).levels ≤ limit + 1 := by omega
        rw [if_neg h, if_neg hall, Option.map_none]

end Outcome

/-! ### Envelopes -/

namespace Envelope

/-- The version in an envelope that was just made. -/
theorem version?_ofFields (body : Node) :
    version? (Node.ofFields [("version", .ofInt formatVersion), ("body", body)]) =
      some formatVersion := by
  have distinct : ([("version", Node.ofInt formatVersion), ("body", body)].map
      Prod.fst).Nodup := by simp
  have hversion : (Number.ofInt (formatVersion : Nat)).toNat? = some formatVersion :=
    Number.toNat?_ofInt formatVersion
  rw [version?, Node.fields?_ofFields _ distinct]
  simp [Node.field?, Node.ofInt, hversion]
  decide

/-- An envelope is written as a sound document if its body is. -/
theorem sound_ofFields {body : Node} (sound : body.Sound) :
    (Node.ofFields [("version", .ofInt formatVersion), ("body", body)]).Sound := by
  refine Node.sound_ofFields fun field hfield => ?_
  rcases List.mem_cons.1 hfield with rfl | hfield
  · exact Node.sound_ofInt _
  · rw [List.mem_singleton.1 hfield]
    exact sound

/-- Of an envelope that was just made the body is read. -/
theorem unwrap_wrap {α : Type} (read? : Nat → Node → Option α) {body : Node} (sound : body.Sound) :
    unwrap read? (wrap body) = (read? (maxLevels - 1) body).elim (.error .malformed) .ok := by
  have distinct : ([("version", Node.ofInt formatVersion), ("body", body)].map
      Prod.fst).Nodup := by simp
  have hbody : ((Node.ofFields [("version", .ofInt formatVersion), ("body", body)]).fields?
      ["body"]).bind (Node.field? "body") = some body := by
    rw [Node.fields?_ofFields _ distinct]
    simp [Node.field?]
  simp only [unwrap, wrap, (sound_ofFields sound).parse?_render, version?_ofFields, ne_eq,
    not_true_eq_false, if_false, hbody, Option.bind_some]
  cases read? (maxLevels - 1) body <;> rfl

end Envelope

/-- What an outcome is read back as from its bytes, exactly. -/
theorem Outcome.decode_encode (outcome : Outcome) :
    decode outcome.encode =
      (if outcome.levels < Envelope.maxLevels then outcome.reread? else none).elim
        (.error .malformed) .ok := by
  rw [decode, encode, Envelope.unwrap_wrap ofNode? outcome.sound_toNode, ofNode?_toNode]
  by_cases h : outcome.levels < Envelope.maxLevels
  · have hle : outcome.levels ≤ Envelope.maxLevels - 1 := Nat.le_pred_of_lt h
    rw [if_pos h, if_pos hle]
  · have hle : ¬ outcome.levels ≤ Envelope.maxLevels - 1 :=
      fun hle => h (Nat.lt_of_le_pred (by decide) hle)
    rw [if_neg h, if_neg hle]

end Isolation
