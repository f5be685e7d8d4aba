import Isolation.Proofs.Envelope.Returned

/-!
# What is kept of a chain of causes

A diagnostic that is made of an error is a single chain: each level has the message and the frames
of one link of the chain of causes, and the level below for its only cause. Of a chain that is longer
than what is captured the first links are kept. Such a diagnostic can always be marshaled, and comes
back as it is.

## Main definitions

* `Diagnostic.chain` — the levels of a diagnostic, the outermost first
* `Diagnostic.Keeps` — a diagnostic that keeps the first links of a chain of causes

## Main results

* `Diagnostic.getElem?_chain` — the levels of a diagnostic that is made of a chain
* `Cause.keeps_capture` — every error is captured as such a diagnostic
* `Failure.capture_keeps` — so is every failure, which survives marshaling
-/

namespace Isolation

namespace Diagnostic

/-- The levels of a diagnostic, the outermost first: below each level comes its first cause. -/
def chain : Diagnostic → List Diagnostic
  | mk message frames [] => [mk message frames []]
  | mk message frames (cause :: causes) => mk message frames (cause :: causes) :: cause.chain

/-- A diagnostic keeps the first links of a chain of causes, up to a number of them: it has one level
for each, with the message and the frames of the link, and the level below is the only cause. -/
structure Keeps (count : Nat) (links : List Cause) (diagnostic : Diagnostic) : Prop where
  length : diagnostic.chain.length = min links.length count
  same : ∀ i level, diagnostic.chain[i]? = some level → ∃ link, links[i]? = some link ∧
    level.message = link.message ∧ level.frames = link.frames ∧
    level.causes = diagnostic.chain[i + 1]?.toList

variable {links : List Cause} {diagnostic : Diagnostic}

/-- Each level of a diagnostic that is made of a chain is made of what remains of the chain. -/
theorem getElem?_chain (h : ofChain? links = some diagnostic) (i : Nat) :
    diagnostic.chain[i]? = ofChain? (links.drop i) := by
  induction links generalizing diagnostic i with
  | nil => cases h
  | cons link links ih =>
    cases h
    cases i with
    | zero => cases hrest : ofChain? links <;> simp [chain, ofChain?, hrest]
    | succ i =>
      cases hrest : ofChain? links with
      | none =>
        have hnil : links = [] := by
          cases links with
          | nil => rfl
          | cons => cases hrest
        simp [chain, hnil, ofChain?]
      | some next => simp [chain, ih hrest]

theorem length_chain (h : ofChain? links = some diagnostic) :
    diagnostic.chain.length = links.length := by
  induction links generalizing diagnostic with
  | nil => cases h
  | cons link links ih =>
    cases h
    cases links with
    | nil => rfl
    | cons next links => exact congrArg (· + 1) (ih rfl)

/-- A diagnostic that is made of the first links keeps them. -/
theorem keeps_of_ofChain? {count : Nat} (h : ofChain? (links.take count) = some diagnostic) :
    diagnostic.Keeps count links where
  length := by rw [length_chain h, List.length_take, Nat.min_comm]
  same i level hlevel := by
    rw [getElem?_chain h] at hlevel
    cases hdrop : (links.take count).drop i with
    | nil =>
      rw [hdrop] at hlevel
      cases hlevel
    | cons link rest =>
      rw [hdrop] at hlevel
      cases hlevel
      have hlink : (links.take count)[i]? = some link := by
        rw [← List.head?_drop, hdrop, List.head?_cons]
      have hrest : (links.take count).drop (i + 1) = rest := by
        rw [← List.tail_drop, hdrop, List.tail_cons]
      refine ⟨link, ?_, rfl, rfl, ?_⟩
      · rw [List.getElem?_take] at hlink
        split at hlink
        · exact hlink
        · cases hlink
      · rw [getElem?_chain h, hrest, causes]

end Diagnostic

/-- Of an error and its causes the first sixty links are kept. -/
theorem Cause.keeps_capture (error : Cause) (causes : List Cause) :
    (Cause.capture error causes).Keeps 60 (error :: causes) :=
  Diagnostic.keeps_of_ofChain? rfl

/-- What is kept of a chain of causes. Every error is captured as a single chain of at most sixty
levels, which tell of the first links one by one. So is every failure of work, and it can always be
marshaled: what is read back is this very chain. -/
theorem Failure.capture_keeps :
    (∀ error causes, (Cause.capture error causes).Keeps 60 (error :: causes)) ∧
      ∀ failure : Failure, failure.capture.Keeps 60 failure.chain ∧
        ∃ bytes, encodeReturned (.error failure) = .ok bytes ∧
          Outcome.decode bytes = .ok (.failure failure.capture) := by
  refine ⟨Cause.keeps_capture, fun failure => ⟨Cause.keeps_capture _ _, _, rfl, ?_⟩⟩
  have houtcome : captureOutcome (.error failure) = .ok (.failure failure.capture) := rfl
  rw [decode_encode_of_captureOutcome houtcome, Outcome.reread?, Option.elim_some]

end Isolation
