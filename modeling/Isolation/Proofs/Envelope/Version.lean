import Isolation.Envelope.Basic
import Isolation.Proofs.Json.Node

/-!
# The version comes first

What an envelope is refused for depends on its version before it depends on anything else. The
version is announced by a text as a whole: the text must be a document, but for the version alone,
so that it does not matter what else is there, how deep it nests, or whether a string that is
skipped is text at all. The body counts only if the version is the one that is known, and then it
has to be there and to be read.

## Main definitions

* `Node.Holds` — the field of a name in a structure that is read for that field alone
* `Envelope.Announces`, `Envelope.HoldsBody` — what an envelope holds
* `Envelope.Gated` — what the version decides about an answer
* `Json.WellFormed` — documents that are text

## Main results

* `Node.bind_field?_eq_some_iff` — reading one field
* `Envelope.version?_eq_some_iff` — reading the version
* `Envelope.gated_unwrap` — reading an envelope with any body
* `Envelope.gated` — outcomes, snapshots and outputs
* `Envelope.unsupported_garbled` — strings that are skipped
-/

namespace Isolation

open Json

namespace Json.Node

/-- The keys are texts, and none of them is a given name. -/
def Others (name : String) (members : List (List UInt8 × Node)) : Prop :=
  ∀ member ∈ members, ∃ text, unquoted? member.1 = some text ∧ text ≠ name

/-- The value of the only member with a name for its key, where all other keys are texts. -/
inductive OnlyMember (name : String) : List (List UInt8 × Node) → Node → Prop
  | here {raw members} (value : Node) (key : unquoted? raw = some name)
      (others : Others name members) : OnlyMember name ((raw, value) :: members) value
  | there {raw text node members value} (key : unquoted? raw = some text) (hne : text ≠ name)
      (more : OnlyMember name members value) : OnlyMember name ((raw, node) :: members) value

/-- A structure that is read for one field holds it as a member of an object, of which all else is
skipped, or as the only item of an array. -/
inductive Holds (name : String) : Node → Node → Prop
  | member {members value} (only : OnlyMember name members value) :
      Holds name (.object members) value
  | item (value : Node) : Holds name (.array [value]) value

variable {name : String} {node value : Node} {members : List (List UInt8 × Node)}

/-- Once the field is found, it may not be found again. -/
theorem known?_found {fields : List (String × Node)} :
    known? [name] members [(name, value)] = some fields ↔
      Others name members ∧ fields = [(name, value)] := by
  induction members with
  | nil => simp [known?, Others, eq_comm]
  | cons member members ih =>
    obtain ⟨raw, node⟩ := member
    rw [known?, Others, List.forall_mem_cons, ← Others]
    cases hkey : unquoted? raw with
    | none => simp
    | some key =>
      by_cases hname : key = name
      · simp [hname]
      · simp [hname, ih]

theorem known?_bind_field? :
    (known? [name] members []).bind (field? name) = some value ↔ OnlyMember name members value := by
  induction members with
  | nil =>
    constructor
    · intro h
      cases h
    · nofun
  | cons member members ih =>
    obtain ⟨raw, node⟩ := member
    rw [known?]
    constructor
    · intro h
      cases hkey : unquoted? raw with
      | none => simp [hkey] at h
      | some key =>
        by_cases hname : key = name
        · obtain rfl := hname
          simp only [hkey, Option.bind_eq_bind, Option.bind_some, List.contains_cons,
            beq_self_eq_true, Bool.true_or, if_true, List.map_nil, List.contains_nil,
            Bool.false_eq_true, if_false, Option.bind_eq_some_iff, known?_found] at h
          obtain ⟨_, ⟨others, rfl⟩, hfield⟩ := h
          obtain rfl : node = value := by simpa [field?] using hfield
          exact .here node hkey others
        · simp [hkey, hname] at h
          exact .there hkey hname (ih.1 h)
    · intro only
      cases only with
      | here _ hkey others =>
        have hfound := known?_found.2 ⟨others, Eq.refl [(name, value)]⟩
        simp [hkey, hfound, field?]
      | there hkey hname more => simpa [hkey, hname] using ih.2 more

/-- Reading a structure for one field. -/
theorem bind_field?_eq_some_iff :
    (node.fields? [name]).bind (field? name) = some value ↔ node.Holds name value := by
  cases node with
  | object members =>
    rw [fields?, known?_bind_field?]
    constructor
    · exact .member
    · rintro ⟨only⟩
      exact only
  | array items =>
    match items with
    | [] => constructor <;> intro h <;> cases h
    | [item] =>
      constructor
      · intro h
        obtain rfl : item = value := by simpa [fields?, pairUp?, field?] using h
        exact .item item
      · rintro ⟨⟩
        simp [fields?, pairUp?, field?]
    | _ :: _ :: _ => constructor <;> intro h <;> cases h
  | _ => constructor <;> intro h <;> cases h

/-- Nothing but an array or an object has parts. -/
def IsBranch : Node → Prop
  | array _ | object _ => True
  | _ => False

theorem isBranch_of_fields? {names : List String} {fields : List (String × Node)}
    (h : node.fields? names = some fields) : node.IsBranch := by
  cases node with
  | array _ | object _ => trivial
  | _ => cases h

theorem isBranch_of_tagged? {tagKey contentKey : String} {levels : Nat} {buffered : Bool}
    {tagged : Tagged} (h : node.tagged? tagKey contentKey levels buffered = some tagged) :
    node.IsBranch := by
  cases node with
  | array _ | object _ => trivial
  | _ => cases h

end Json.Node

/-- A text that may be exchanged as a document: it follows the grammar, and all of it is UTF-8. -/
def Json.WellFormed (bytes : List UInt8) : Prop :=
  (Text.Utf8.decode? bytes).isSome = true ∧ ∃ document : Node, document.Written bytes

/-! ### What is never read -/

theorem Outcome.isBranch_of_ofNode? {levels : Nat} {node : Node} {outcome : Outcome}
    (h : ofNode? levels node = some outcome) : node.IsBranch := by
  cases levels with
  | zero => cases h
  | succ levels =>
    obtain ⟨tagged, htagged, -⟩ := Option.bind_eq_some_iff.1 h
    exact Node.isBranch_of_tagged? htagged

theorem Snapshot.isBranch_of_ofNode? {levels : Nat} {node : Node} {snapshot : Snapshot}
    (h : ofNode? levels node = some snapshot) : node.IsBranch := by
  cases levels with
  | zero => cases h
  | succ levels =>
    obtain ⟨fields, hfields, -⟩ := Option.bind_eq_some_iff.1 h
    exact Node.isBranch_of_fields? hfields

theorem StringMap.isBranch_of_ofNode? {levels : Nat} {node : Node} {map : StringMap String}
    (h : ofNode? levels node = some map) : node.IsBranch := by
  rw [ofNode?.eq_def] at h
  split at h
  · trivial
  · cases h

namespace Envelope

variable {bytes : List UInt8} {version : Nat} {document : Node}

/-- A text announces a version: it is a document, and the field for the version in it is a natural
number of 32 bits, written in digits only. -/
def Announces (bytes : List UInt8) (version : Nat) : Prop :=
  ∃ (document : Node) (digits : List UInt8), document.Written bytes ∧
    document.Holds "version" (.number ⟨false, digits, [], none⟩) ∧
    Number.digitsValue digits 0 = version ∧ version < 2 ^ 32

/-- A text holds a body: it is a document with this field in it. -/
def HoldsBody (bytes : List UInt8) (body : Node) : Prop :=
  ∃ document : Node, document.Written bytes ∧ document.Holds "body" body

theorem toNat?_eq_some_iff {n : Number} {value : Nat} :
    n.toNat? = some value ↔
      ∃ digits, n = ⟨false, digits, [], none⟩ ∧ Number.digitsValue digits 0 = value := by
  obtain ⟨negative, whole, fraction, exponent⟩ := n
  rw [Number.toNat?, Number.isInteger]
  constructor
  · intro h
    split at h
    · next hplain =>
      simp at hplain
      obtain ⟨⟨⟨rfl, rfl⟩, -⟩, rfl⟩ := hplain
      exact ⟨whole, rfl, Option.some.inj h⟩
    · cases h
  · rintro ⟨digits, heq, rfl⟩
    cases heq
    simp

/-- The version that a field holds. -/
def versionIn? : Node → Option Nat
  | .number n => n.toNat?.filter (· < 2 ^ 32)
  | _ => none

theorem versionIn?_eq_some_iff {field : Node} :
    versionIn? field = some version ↔
      ∃ digits, field = .number ⟨false, digits, [], none⟩ ∧
        Number.digitsValue digits 0 = version ∧ version < 2 ^ 32 := by
  cases field with
  | number n =>
    rw [versionIn?, Option.filter_eq_some_iff, toNat?_eq_some_iff, decide_eq_true_eq]
    simp only [Node.number.injEq, ← and_assoc, exists_and_right]
  | _ => simp [versionIn?]

/-- Reading the version. -/
theorem version?_eq_some_iff :
    version? document = some version ↔
      ∃ digits, document.Holds "version" (.number ⟨false, digits, [], none⟩) ∧
        Number.digitsValue digits 0 = version ∧ version < 2 ^ 32 := by
  have hbind : version? document =
      ((document.fields? ["version"]).bind (Node.field? "version")).bind versionIn? := by
    rw [Option.bind_assoc]
    rfl
  rw [hbind, Option.bind_eq_some_iff]
  simp only [Node.bind_field?_eq_some_iff, versionIn?_eq_some_iff]
  constructor
  · rintro ⟨value, holds, digits, rfl, hversion⟩
    exact ⟨digits, holds, hversion⟩
  · rintro ⟨digits, holds, hversion⟩
    exact ⟨_, holds, digits, rfl, hversion⟩

/-- What the version of an envelope decides about the answer to it. -/
structure Gated {α : Type} (read? : Nat → Node → Option α) (bytes : List UInt8)
    (answer : Except MarshalError α) : Prop where
  /-- Another version is refused as such, whatever the body is. -/
  unsupported_iff : ∀ version, answer = .error (.unsupportedVersion version) ↔
    Announces bytes version ∧ version ≠ formatVersion
  /-- A value is what is read of the body of an envelope with the known version. -/
  ok_iff : ∀ value, answer = .ok value ↔ Announces bytes formatVersion ∧
    ∃ body, HoldsBody bytes body ∧ body.IsBranch ∧ read? (maxLevels - 1) body = some value
  /-- In all other cases the envelope is malformed. -/
  cases : answer = .error .malformed ∨
    (∃ version, answer = .error (.unsupportedVersion version)) ∨ ∃ value, answer = .ok value

theorem announces_iff (written : document.Written bytes) :
    Announces bytes version ↔ version? document = some version := by
  rw [version?_eq_some_iff]
  constructor
  · rintro ⟨other, digits, hother, holds, hdigits, hlt⟩
    have hdocument := Node.parse?_eq_some_iff.2 written
    rw [Node.parse?_eq_some_iff.2 hother] at hdocument
    cases hdocument
    exact ⟨digits, holds, hdigits, hlt⟩
  · rintro ⟨digits, holds, hdigits, hlt⟩
    exact ⟨document, digits, written, holds, hdigits, hlt⟩

theorem holdsBody_iff (written : document.Written bytes) {body : Node} :
    HoldsBody bytes body ↔
      (document.fields? ["body"]).bind (Node.field? "body") = some body := by
  rw [Node.bind_field?_eq_some_iff]
  constructor
  · rintro ⟨other, hother, holds⟩
    have hdocument := Node.parse?_eq_some_iff.2 written
    rw [Node.parse?_eq_some_iff.2 hother] at hdocument
    cases hdocument
    exact holds
  · intro holds
    exact ⟨document, written, holds⟩

section Unwrap

variable {α : Type} {read? : Nat → Node → Option α}

/-- Without a version there is no more to say. -/
theorem gated_malformed (hnone : ∀ version, ¬ Announces bytes version) :
    Gated read? bytes (.error .malformed) where
  unsupported_iff version := iff_of_false nofun fun h => hnone version h.1
  ok_iff _ := iff_of_false nofun fun h => hnone formatVersion h.1
  cases := .inl rfl

/-- Another version than the known one ends the reading. -/
theorem gated_unsupported (hversion : ∀ other, Announces bytes other ↔ other = version)
    (hunknown : version ≠ formatVersion) :
    Gated read? bytes (.error (.unsupportedVersion version)) where
  unsupported_iff other := by
    rw [hversion]
    constructor
    · rintro ⟨⟩
      exact ⟨rfl, hunknown⟩
    · rintro ⟨rfl, -⟩
      rfl
  ok_iff _ := iff_of_false nofun fun h => hunknown ((hversion _).1 h.1).symm
  cases := .inr (.inl ⟨version, rfl⟩)

/-- With the known version the body decides. -/
theorem gated_known (hversion : ∀ other, Announces bytes other ↔ other = formatVersion)
    {result? : Option α}
    (hresult : ∀ value, result? = some value ↔
      ∃ body, HoldsBody bytes body ∧ body.IsBranch ∧ read? (maxLevels - 1) body = some value) :
    Gated read? bytes (result?.elim (.error .malformed) .ok) where
  unsupported_iff other := by
    rw [hversion]
    refine iff_of_false (fun h => ?_) fun h => h.2 h.1
    cases result? <;> cases h
  ok_iff value := by
    rw [← hresult, hversion]
    cases result? <;> simp
  cases := by
    cases result? with
    | none => exact .inl rfl
    | some value => exact .inr (.inr ⟨value, rfl⟩)

/-- The version decides about the answer to an envelope, whatever is read of its body. -/
theorem gated_unwrap
    (hbranch : ∀ {levels node value}, read? levels node = some value → node.IsBranch)
    (bytes : List UInt8) : Gated read? bytes (unwrap read? bytes) := by
  rw [unwrap]
  cases hparse : Node.parse? bytes with
  | none =>
    refine gated_malformed ?_
    rintro version ⟨document, -, written, -⟩
    cases hparse.symm.trans (Node.parse?_eq_some_iff.2 written)
  | some document =>
    have written := Node.parse?_eq_some_iff.1 hparse
    have hannounces : ∀ other, Announces bytes other ↔ version? document = some other :=
      fun _ => announces_iff written
    dsimp only
    cases hversion : version? document with
    | none =>
      refine gated_malformed fun version h => ?_
      cases hversion.symm.trans ((hannounces version).1 h)
    | some version =>
      have hone : ∀ other, Announces bytes other ↔ other = version := by
        simp [hannounces, hversion, eq_comm]
      dsimp only
      split
      · next hunknown => exact gated_unsupported hone hunknown
      · next hknown =>
        obtain rfl := Decidable.of_not_not hknown
        have hresult : ∀ value,
            ((document.fields? ["body"]).bind (Node.field? "body")).bind
              (read? (maxLevels - 1)) = some value ↔
            ∃ body, HoldsBody bytes body ∧ body.IsBranch ∧
              read? (maxLevels - 1) body = some value := by
          simp only [Option.bind_eq_some_iff, holdsBody_iff written]
          exact fun value => exists_congr fun body => and_congr_right fun _ =>
            (and_iff_right_of_imp hbranch).symm
        generalize ((document.fields? ["body"]).bind (Node.field? "body")).bind
          (read? (maxLevels - 1)) = result? at hresult ⊢
        cases result? <;> exact gated_known hone hresult

end Unwrap

/-- Outcomes, snapshots and outputs are refused for the same versions and in the same texts, and
none of them is read without its body. -/
theorem gated (bytes : List UInt8) :
    Gated Outcome.ofNode? bytes (Outcome.decode bytes) ∧
      Gated Snapshot.ofNode? bytes (Snapshot.decode bytes) ∧
      Gated StringMap.ofNode? bytes (decodeOutputs bytes) :=
  ⟨gated_unwrap Outcome.isBranch_of_ofNode? bytes, gated_unwrap Snapshot.isBranch_of_ofNode? bytes,
    gated_unwrap StringMap.isBranch_of_ofNode? bytes⟩

/-- An envelope with a version that is not known, of which the body is a string of one byte that no
text has. -/
def garbled : List UInt8 :=
  [0x7B, 0x22, 0x76, 0x65, 0x72, 0x73, 0x69, 0x6F, 0x6E, 0x22, 0x3A, 0x32, 0x2C,
    0x22, 0x62, 0x6F, 0x64, 0x79, 0x22, 0x3A, 0x22, 0xFF, 0x22, 0x7D]

/-- What is skipped need not be text: the version is told of bytes that are no document. -/
theorem unsupported_garbled :
    ¬ Json.WellFormed garbled ∧
      Outcome.decode garbled = .error (.unsupportedVersion 2) ∧
      Snapshot.decode garbled = .error (.unsupportedVersion 2) ∧
      decodeOutputs garbled = .error (.unsupportedVersion 2) := by
  refine ⟨fun wellFormed => ?_, by with_unfolding_all rfl, by with_unfolding_all rfl,
    by with_unfolding_all rfl⟩
  have hdecode : (Text.Utf8.decode? garbled).isSome = false := by decide +kernel
  cases hdecode.symm.trans wellFormed.1

end Envelope

end Isolation
