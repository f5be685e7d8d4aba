import Isolation.Proofs.Envelope.Outputs
import Isolation.Proofs.Envelope.Returned
import Isolation.Proofs.Json.Extent

/-!
# Envelopes tell where they end

An envelope is an object, and an object tells by itself where it ends. So an envelope that lost
something at its end is refused, wherever it was cut, and so is one with something behind it. Only
blanks may follow, and they change nothing.

## Main definitions

* `Envelope.Framed` — bytes that are read as a whole or not at all

## Main results

* `Envelope.framed_wrap` — an envelope with any body
* `Envelope.framed` — outcomes, snapshots and outputs
-/

namespace Isolation

open Json

namespace Envelope

/-- Some bytes are read as a whole or not at all: what is left of them when they are cut is
malformed, and so are the bytes with more behind them, unless it is blank. -/
structure Framed {α : Type} (decode : List UInt8 → Except MarshalError α)
    (bytes : List UInt8) : Prop where
  cut : ∀ front, front <+: bytes → front ≠ bytes → decode front = .error .malformed
  extended : ∀ rest, (∃ b ∈ rest, Token.isBlank b = false) →
    decode (bytes ++ rest) = .error .malformed
  padded : ∀ rest, (∀ b ∈ rest, Token.isBlank b = true) → decode (bytes ++ rest) = decode bytes

section Unwrap

variable {α : Type} (read? : Nat → Node → Option α) {bytes other : List UInt8}

/-- What is no document is malformed, whatever is read. -/
theorem unwrap_of_parse? (h : Node.parse? bytes = none) :
    unwrap read? bytes = .error .malformed := by
  rw [unwrap, h]

theorem unwrap_congr (h : Node.parse? bytes = Node.parse? other) :
    unwrap read? bytes = unwrap read? other := by
  rw [unwrap, h, unwrap]

/-- An envelope is read as a whole or not at all, whatever is read of its body. -/
theorem framed_wrap {body : Node} (sound : body.Sound) : Framed (unwrap read?) (wrap body) where
  cut _ begins proper :=
    unwrap_of_parse? read? (Node.parse?_eq_none_of_proper (sound_ofFields sound) begins proper)
  extended _ h := unwrap_of_parse? read? (Node.parse?_append_eq_none (sound_ofFields sound) h)
  padded _ blanks := unwrap_congr read? (Node.parse?_append_blanks (sound_ofFields sound) blanks)

end Unwrap

/-- Everything that is marshaled is read as a whole or not at all: every outcome, every snapshot,
all outputs, and whatever work returns that can be captured. -/
theorem framed :
    (∀ outcome : Outcome, Framed Outcome.decode outcome.encode) ∧
      (∀ snapshot : Snapshot, Framed Snapshot.decode snapshot.encode) ∧
      (∀ outputs : StringMap String, Framed decodeOutputs (encodeOutputs outputs)) ∧
      ∀ returned bytes, encodeReturned returned = .ok bytes → Framed Outcome.decode bytes := by
  have houtcome (outcome : Outcome) : Framed Outcome.decode outcome.encode :=
    framed_wrap Outcome.ofNode? outcome.sound_toNode
  refine ⟨houtcome, fun snapshot => ?_, fun outputs => ?_, fun returned bytes h => ?_⟩
  · exact framed_wrap Snapshot.ofNode? snapshot.sound_toNode
  · exact framed_wrap StringMap.ofNode? outputs.sound_toNode
  · obtain ⟨outcome, -, rfl⟩ := encodeReturned_eq_ok h
    exact houtcome outcome

/-- A string of quotes and braces, cut behind each of its bytes, and with one brace too many. -/
theorem framed_braces :
    ∃ bytes, encodeReturned (.ok (.str "\"\x7d\x7d")) = .ok bytes ∧
      (∀ n < bytes.length, Outcome.decode (bytes.take n) = .error .malformed) ∧
      Outcome.decode (bytes ++ [0x20, 0x7D]) = .error .malformed ∧
      Outcome.decode (bytes ++ [0x20, 0x0A]) = Outcome.decode bytes := by
  refine ⟨_, rfl, ?_⟩
  have hframed := framed.2.2.2 (.ok (.str "\"\x7d\x7d")) _ rfl
  refine ⟨fun n hn => ?_, ?_, ?_⟩
  · refine hframed.cut _ (List.take_prefix n _) fun heq => ?_
    have hlength := congrArg List.length heq
    rw [List.length_take] at hlength
    omega
  · exact hframed.extended _ ⟨0x7D, by decide, rfl⟩
  · exact hframed.padded _ (List.all_eq_true.1 (by decide))

end Envelope

end Isolation
