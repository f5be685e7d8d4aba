import Isolation.Proofs.Json.Node

/-!
# Where a document ends

A text tells by itself where the document in it ends, unless the document is a number, which may go
on. So a text that begins with a whole document is none itself, except if only blanks follow, and
nothing that is cut off a document leaves one.

## Main results

* `Token.Text.append_inv` — the tokens of a text that begins with the text of some tokens
* `Node.Written.append_iff` — what may stand behind a document
* `Node.parse?_eq_none_of_proper` — nothing at the front of an object is a document
-/

namespace Isolation.Json

namespace Token

variable {tokens all : List Token} {bytes front rest : List UInt8}

theorem text_nil_iff : Text [] bytes ↔ ∀ b ∈ bytes, isBlank b = true := by
  constructor
  · intro text
    generalize htokens : ([] : List Token) = tokens at text
    induction text with
    | nil => nofun
    | blank hb _ ih => exact List.forall_mem_cons.2 ⟨hb, ih htokens⟩
    | token => cases htokens
  · intro h
    induction bytes with
    | nil => exact .nil
    | cons b bytes ih =>
      obtain ⟨hb, hbytes⟩ := List.forall_mem_cons.1 h
      exact .blank hb (ih hbytes)

theorem Text.append_blanks (text : Text tokens front) (blanks : ∀ b ∈ rest, isBlank b = true) :
    Text tokens (front ++ rest) := by
  induction text with
  | nil => exact text_nil_iff.2 blanks
  | blank hb _ ih => exact .blank hb ih
  | token spelled _ ih => exact List.append_assoc _ _ _ ▸ .token spelled ih

/-- Every token has a byte. -/
theorem Text.ne_nil (text : Text tokens bytes) (h : tokens ≠ []) : bytes ≠ [] := by
  cases text with
  | nil => exact absurd rfl h
  | blank => nofun
  | token spelled =>
    obtain ⟨b, others, rfl, -⟩ := spelled.eq_cons
    nofun

/-- The tokens of a text are found even if more follows, as long as the last one is no number; the
rest of the fuel is left for what follows. -/
theorem Text.scanFrom?_append (text : Text tokens front) (chain : tokens.IsChain Follows)
    (last : ∀ n, tokens.getLast? ≠ some (.number n)) {fuel : Nat} {found : List Token}
    (h : scanFrom? fuel (front ++ rest) found = some all) :
    ∃ fuel', scanFrom? fuel' rest (tokens.reverse ++ found) = some all := by
  induction text generalizing fuel found with
  | nil => exact ⟨fuel, h⟩
  | @blank tokens b bytes hb more ih =>
    cases fuel with
    | zero => cases h
    | succ fuel =>
      rw [List.cons_append, scanFrom?, if_pos hb] at h
      exact ih chain last h
  | @token token tokens front bytes spelled more ih =>
    cases fuel with
    | zero => cases h
    | succ fuel =>
      -- behind a number there is one more token of the text, which decides what comes next
      have hrest : (∃ n, token = .number n) →
          ∀ b ∈ (bytes ++ rest).head?, continuesNumber b = false := by
        rintro ⟨n, rfl⟩
        have hne : tokens ≠ [] := fun hnil => last n (by rw [hnil, List.getLast?_singleton])
        rw [List.head?_append_of_ne_nil _ (more.ne_nil hne)]
        refine more.head? fun after hafter => ?_
        exact (List.isChain_cons.1 chain |>.1 after hafter).resolve_left fun h => h n rfl
      have hnext := spelled.next?_append hrest
      obtain ⟨b, others, rfl, hblank⟩ := spelled.eq_cons
      rw [List.append_assoc, List.cons_append] at h
      rw [List.cons_append] at hnext
      simp only [scanFrom?, hblank, Bool.false_eq_true, if_false, hnext] at h
      have last' : ∀ n, tokens.getLast? ≠ some (.number n) := by
        intro n hn
        refine last n ?_
        rw [List.getLast?_cons, hn, Option.getD_some]
      obtain ⟨fuel', h'⟩ := ih chain.tail last' h
      refine ⟨fuel', ?_⟩
      rwa [List.reverse_cons, List.append_assoc, List.singleton_append]

/-- A text that begins with the text of some tokens has these tokens and those of the rest. -/
theorem Text.append_inv (text : Text tokens front) (chain : tokens.IsChain Follows)
    (last : ∀ n, tokens.getLast? ≠ some (.number n)) (whole : Text all (front ++ rest))
    (chain' : all.IsChain Follows) : ∃ more, all = tokens ++ more ∧ Text more rest := by
  obtain ⟨fuel, h⟩ := text.scanFrom?_append chain last (whole.scan?_eq_some chain')
  obtain ⟨more, rfl, text'⟩ := text_of_scanFrom? h
  refine ⟨more, ?_, text'⟩
  rw [List.append_nil, List.reverse_reverse]

/-- Only an object begins with a brace. -/
theorem Text.exists_openObject (text : Text tokens (0x7B :: bytes)) :
    ∃ more, tokens = .openObject :: more := by
  generalize hbytes : 0x7B :: bytes = all at text
  cases text with
  | nil => cases hbytes
  | blank hb =>
    cases hbytes
    cases hb
  | @token token tokens front after spelled more =>
    cases spelled with
    | number spelled =>
      obtain ⟨b, others, rfl, hb⟩ := head?_number spelled
      cases hbytes
      exact absurd rfl (ne_of_isDigit hb).2.2.2.1
    | openObject => exact ⟨tokens, rfl⟩
    | bool b => cases b <;> cases hbytes
    | _ => cases hbytes

end Token

namespace Node

variable {node other : Node} {front rest bytes : List UInt8}

theorem exists_tokens_array (items : List Node) :
    ∃ inner, (array items).tokens = inner ++ [.closeArray] := by
  rw [← items.reverse_reverse]
  cases items.reverse with
  | nil => exact ⟨[.openArray], rfl⟩
  | cons item items => exact ⟨_, tokens_array_reverse items item⟩

theorem exists_tokens_object (members : List (List UInt8 × Node)) :
    ∃ inner, (object members).tokens = inner ++ [.closeObject] := by
  rw [← members.reverse_reverse]
  cases members.reverse with
  | nil => exact ⟨[.openObject], rfl⟩
  | cons member members => exact ⟨_, tokens_object_reverse members member.1 member.2⟩

/-- The last token of a document is a number only if the document is one. -/
theorem getLast?_tokens (h : ∀ n, node ≠ .number n) (n : Number) :
    node.tokens.getLast? ≠ some (.number n) := by
  cases node with
  | number m => exact absurd rfl (h m)
  | array items =>
    obtain ⟨inner, hinner⟩ := exists_tokens_array items
    rw [hinner, List.getLast?_concat]
    nofun
  | object members =>
    obtain ⟨inner, hinner⟩ := exists_tokens_object members
    rw [hinner, List.getLast?_concat]
    nofun
  | _ => nofun

/-- Nothing can be added to the tokens of a document. -/
theorem eq_of_tokens_eq_append {more : List Token} (h : other.tokens = node.tokens ++ more) :
    other = node ∧ more = [] := by
  have hrun := node.completes [] none .value (.inl rfl)
  have hother := other.ofTokens?_tokens
  rw [h] at hother
  cases more with
  | nil =>
    rw [List.append_nil, ofTokens?_tokens] at hother
    exact ⟨(Option.some.inj hother).symm, rfl⟩
  | cons token more =>
    -- the machine has its document and takes no token any more
    obtain ⟨state, hstate, -⟩ := Option.bind_eq_some_iff.1 hother
    rw [List.foldlM_append, hrun] at hstate
    cases hstate

/-- Behind a document that is no number nothing but blanks may stand. -/
theorem Written.append_iff (written : node.Written front) (h : ∀ n, node ≠ .number n) :
    other.Written (front ++ rest) ↔ other = node ∧ ∀ b ∈ rest, Token.isBlank b = true := by
  constructor
  · intro whole
    obtain ⟨more, hmore, text⟩ := Token.Text.append_inv written node.isChain_tokens
      (getLast?_tokens h) whole other.isChain_tokens
    obtain ⟨rfl, rfl⟩ := eq_of_tokens_eq_append hmore
    exact ⟨rfl, Token.text_nil_iff.1 text⟩
  · rintro ⟨rfl, blanks⟩
    exact Token.Text.append_blanks written blanks

theorem Written.eq_object (written : node.Written (0x7B :: bytes)) :
    ∃ members, node = .object members := by
  obtain ⟨more, hmore⟩ := Token.Text.exists_openObject written
  cases node with
  | object members => exact ⟨members, rfl⟩
  | _ => cases hmore

/-- No text without bytes is a document. -/
theorem not_written_nil : ¬ node.Written [] := by
  intro written
  refine Token.Text.ne_nil written ?_ rfl
  cases node <;> nofun

theorem parse?_eq_none_iff : parse? bytes = none ↔ ∀ node : Node, ¬ node.Written bytes := by
  rw [Option.eq_none_iff_forall_ne_some]
  simp only [ne_eq, parse?_eq_some_iff]

section Object

variable {members : List (List UInt8 × Node)}

/-- The last byte of an object is a brace. -/
theorem getLast?_render_object (members : List (List UInt8 × Node)) :
    (object members).render.getLast? = some 0x7D := by
  obtain ⟨inner, hinner⟩ := exists_tokens_object members
  have hrender : (object members).render = inner.flatMap Token.render ++ [0x7D] := by
    rw [render, hinner, List.flatMap_append]
    rfl
  rw [hrender, List.getLast?_concat]

/-- If something is cut off the end of an object, the rest is no document. -/
theorem parse?_eq_none_of_proper (sound : (object members).Sound)
    (begins : front <+: (object members).render) (proper : front ≠ (object members).render) :
    parse? front = none := by
  obtain ⟨rest, hrest⟩ := begins
  refine parse?_eq_none_iff.2 fun other written => ?_
  have whole : (object members).Written (front ++ rest) :=
    hrest ▸ parse?_eq_some_iff.1 sound.parse?_render
  cases front with
  | nil => exact not_written_nil written
  | cons b front =>
    -- a document that begins with the brace is an object too, so only blanks could be cut off
    obtain rfl : b = 0x7B := (List.cons.inj hrest).1
    obtain ⟨others, rfl⟩ := written.eq_object
    have blanks := ((written.append_iff nofun).1 whole).2
    have hne : rest ≠ [] := fun hnil => proper (by rw [← hrest, hnil, List.append_nil])
    have hlast : rest.getLast? = some 0x7D := by
      rw [← List.getLast?_append_of_ne_nil _ hne, hrest, getLast?_render_object]
    cases blanks 0x7D (List.mem_of_getLast? hlast)

/-- What stands behind an object may only be blank. -/
theorem parse?_append_eq_none (sound : (object members).Sound)
    (h : ∃ b ∈ rest, Token.isBlank b = false) :
    parse? ((object members).render ++ rest) = none := by
  refine parse?_eq_none_iff.2 fun other written => ?_
  have written' : (object members).Written (object members).render :=
    parse?_eq_some_iff.1 sound.parse?_render
  obtain ⟨b, hb, hblank⟩ := h
  cases hblank.symm.trans (((written'.append_iff nofun).1 written).2 b hb)

/-- Blanks behind an object do not count. -/
theorem parse?_append_blanks (sound : (object members).Sound)
    (blanks : ∀ b ∈ rest, Token.isBlank b = true) :
    parse? ((object members).render ++ rest) = parse? (object members).render := by
  have hrender := sound.parse?_render
  rw [hrender, parse?_eq_some_iff]
  exact (Written.append_iff (parse?_eq_some_iff.1 hrender) nofun).2 ⟨rfl, blanks⟩

end Object

end Node

end Isolation.Json
