import Isolation.Capture
import Isolation.Envelope.Plain

/-!
# Envelopes

What crosses a boundary is marshaled: written as a document in an envelope that carries the version
of the format. On the way back the version is looked at first, in the whole text, and only then the
body.

## Main definitions

* `MarshalError` — why marshaling fails
* `Envelope.wrap` — a body in an envelope, as bytes
* `Envelope.unwrap` — the body in an envelope
* `Outcome.encode`, `Snapshot.encode`, `encodeOutputs` and their readings `decode`
-/

namespace Isolation

open Json

/-- Why something cannot be marshaled or read back. -/
inductive MarshalError
  | capture (error : CaptureError)
  | malformed
  | unsupportedVersion (version : Nat)
  deriving DecidableEq, Repr

/-- The error as text; what is wrong with malformed bytes is not told. -/
def MarshalError.message : MarshalError → String
  | capture error => error.message
  | malformed => "malformed marshaled bytes: "
  | unsupportedVersion version => "unsupported marshaling format version " ++ Text.ofNat version

namespace Envelope

/-- The version of the format that is written and read. -/
def formatVersion : Nat := 1

/-- The number of levels to which the parts that are read may nest, the envelope included. -/
def maxLevels : Nat := 127

/-- A body in an envelope, as bytes. -/
def wrap (body : Node) : List UInt8 :=
  (Node.ofFields [("version", .ofInt formatVersion), ("body", body)]).render

/-- The version in the header, a 32-bit number. All else in the envelope is skipped. -/
def version? (node : Node) : Option Nat := do
  let fields ← node.fields? ["version"]
  match ← Node.field? "version" fields with
  | .number n => n.toNat?.filter (· < 2 ^ 32)
  | _ => none

/-- What is read from the body of an envelope: the version first, which must be known. -/
def unwrap {α : Type} (read? : Nat → Node → Option α) (bytes : List UInt8) :
    Except MarshalError α :=
  match Node.parse? bytes with
  | none => .error .malformed
  | some node =>
    match version? node with
    | none => .error .malformed
    | some version =>
      if version ≠ formatVersion then .error (.unsupportedVersion version)
      else
        -- the envelope itself is the first of the levels
        let body := (node.fields? ["body"]).bind (Node.field? "body")
        match body.bind (read? (maxLevels - 1)) with
        | some value => .ok value
        | none => .error .malformed

end Envelope

/-- A map as an object. -/
def StringMap.toNode (map : StringMap String) : Node :=
  .ofFields (map.toList.map fun pair => (pair.1, .ofString pair.2))

/-- The map in a document that may nest to a number of levels. Of two values with one key the later
counts. -/
def StringMap.ofNode? : Nat → Node → Option (StringMap String)
  | _ + 1, .object members => do
    let pairs ← members.mapM fun member => do
      let key ← unquoted? member.1
      let value ← member.2.asString?
      return (key, value)
    return StringMap.ofList pairs
  | _, _ => none

namespace Snapshot

/-- A snapshot as a document. -/
def toNode (snapshot : Snapshot) : Node :=
  .ofFields [("input", snapshot.input.toNode), ("env", snapshot.env.toNode)]

/-- The snapshot in a document that may nest to a number of levels. A map that is left out is
empty. -/
def ofNode? : Nat → Node → Option Snapshot
  | 0, _ => none
  | levels + 1, node => do
    let fields ← node.fields? ["input", "env"]
    let map? (name : String) : Option (StringMap String) :=
      match Node.field? name fields with
      | none => some ∅
      | some node => StringMap.ofNode? levels node
    let input ← map? "input"
    let env ← map? "env"
    return { input, env }

/-- A snapshot as bytes. -/
def encode (snapshot : Snapshot) : List UInt8 := Envelope.wrap snapshot.toNode

/-- The snapshot in some bytes. -/
def decode (bytes : List UInt8) : Except MarshalError Snapshot := Envelope.unwrap ofNode? bytes

end Snapshot

/-- The outputs of a context as bytes. -/
def encodeOutputs (outputs : StringMap String) : List UInt8 := Envelope.wrap outputs.toNode

/-- The outputs in some bytes. -/
def decodeOutputs (bytes : List UInt8) : Except MarshalError (StringMap String) :=
  Envelope.unwrap StringMap.ofNode? bytes

namespace Outcome

/-- An outcome as bytes. -/
def encode (outcome : Outcome) : List UInt8 := Envelope.wrap outcome.toNode

/-- The outcome in some bytes. -/
def decode (bytes : List UInt8) : Except MarshalError Outcome := Envelope.unwrap ofNode? bytes

end Outcome

/-- What work returned, captured and as bytes. -/
def encodeReturned (returned : Except Failure Value) : Except MarshalError (List UInt8) :=
  match captureOutcome returned with
  | .ok outcome => .ok outcome.encode
  | .error error => .error (.capture error)

end Isolation
