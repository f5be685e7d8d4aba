import Isolation.Proofs.Envelope.Outcome

/-!
# Contexts survive marshaling

A map of texts is written as an object and made again of its members, which are in the order of
their keys already. So neither what a context starts from nor its outputs change on their way.

## Main definitions

* `Envelope.Lossless` — bytes that are read back as what they were written for

## Main results

* `StringMap.ofNode?_toNode`, `Snapshot.ofNode?_toNode` — documents
* `decodeOutputs_encodeOutputs`, `Snapshot.decode_encode` — bytes
-/

namespace Isolation

open Json

/-- Whatever is written is read back, and of two different things the bytes are different. -/
structure Envelope.Lossless {α : Type} (encode : α → List UInt8)
    (decode : List UInt8 → Except MarshalError α) : Prop where
  decoded : ∀ value, decode (encode value) = .ok value
  injective : Function.Injective encode

/-- What is read back tells apart what was written. -/
theorem Envelope.lossless_of_decoded {α : Type} {encode : α → List UInt8}
    {decode : List UInt8 → Except MarshalError α}
    (decoded : ∀ value, decode (encode value) = .ok value) : Lossless encode decode := by
  refine ⟨decoded, fun value other same => ?_⟩
  have hsame : Except.ok value = decode (encode other) := same ▸ (decoded value).symm
  exact Except.ok.inj (hsame.trans (decoded other))

namespace StringMap

theorem sound_toNode (map : StringMap String) : map.toNode.Sound := by
  refine Node.sound_ofFields fun field hfield => ?_
  obtain ⟨pair, -, rfl⟩ := List.mem_map.1 hfield
  exact Node.sound_ofString pair.2

/-- The members of an object are read back one by one. -/
theorem mapM_members (pairs : List (String × String)) :
    ((pairs.map fun pair => (quoted pair.1, Node.ofString pair.2)).mapM fun member => do
      let key ← unquoted? member.1
      let value ← member.2.asString?
      return (key, value)) = some pairs := by
  induction pairs with
  | nil => rfl
  | cons pair pairs ih =>
    rw [List.map_cons, List.mapM_cons, ih, unquoted?_quoted, Node.asString?_ofString]
    rfl

theorem ofNode?_toNode (limit : Nat) (map : StringMap String) :
    ofNode? (limit + 1) map.toNode = some map := by
  rw [toNode, Node.ofFields, List.map_map, ofNode?]
  have hmembers := mapM_members map.toList
  simp only [Function.comp_def] at hmembers ⊢
  rw [hmembers, Option.bind_eq_bind, Option.bind_some, ofList_toList]
  rfl

end StringMap

/-- Outputs are read back as they were written. -/
theorem decodeOutputs_encodeOutputs (outputs : StringMap String) :
    decodeOutputs (encodeOutputs outputs) = .ok outputs := by
  have hlimit : Envelope.maxLevels - 1 = (Envelope.maxLevels - 2) + 1 := by decide
  rw [decodeOutputs, encodeOutputs, Envelope.unwrap_wrap _ outputs.sound_toNode, hlimit,
    StringMap.ofNode?_toNode]
  rfl

namespace Snapshot

theorem sound_toNode (snapshot : Snapshot) : snapshot.toNode.Sound := by
  refine Node.sound_ofFields fun field hfield => ?_
  rcases List.mem_cons.1 hfield with rfl | hfield
  · exact snapshot.input.sound_toNode
  · rw [List.mem_singleton.1 hfield]
    exact snapshot.env.sound_toNode

theorem ofNode?_toNode (limit : Nat) (snapshot : Snapshot) :
    ofNode? (limit + 2) snapshot.toNode = some snapshot := by
  have distinct : ([("input", snapshot.input.toNode), ("env", snapshot.env.toNode)].map
      Prod.fst).Nodup := by simp
  rw [ofNode?, toNode]
  simp [Node.fields?_ofFields _ distinct, Node.field?, StringMap.ofNode?_toNode]

/-- What a context starts from is read back as it was written. -/
theorem decode_encode (snapshot : Snapshot) : decode snapshot.encode = .ok snapshot := by
  have hlimit : Envelope.maxLevels - 1 = (Envelope.maxLevels - 3) + 2 := by decide
  rw [decode, encode, Envelope.unwrap_wrap _ snapshot.sound_toNode, hlimit, ofNode?_toNode]
  rfl

end Snapshot

end Isolation
