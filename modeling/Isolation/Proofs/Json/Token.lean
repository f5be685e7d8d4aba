import Isolation.Json.Token
import Isolation.Proofs.Json.Number
import Isolation.Proofs.Json.Quoted
import Mathlib.Data.List.Chain

/-!
# Spellings of tokens

A text spells its tokens one after the other, with blanks wherever there is no token. Reading finds
exactly the tokens that a text spells, provided that something stands after each number that cannot
belong to it.

## Main definitions

* `Token.Spelled` — how a token may be spelled
* `Token.Text` — the texts of some tokens
* `Token.Follows` — which tokens may stand after another

## Main results

* `Token.Spelled.next?_append`, `Token.spelled_of_next?` — one token
* `Token.Text.scan?_eq_some`, `Token.text_of_scan?` — all of them
-/

namespace Isolation.Json.Token

open Isolation.Text

/-- How a token may be spelled. Only numbers have more than one spelling. -/
inductive Spelled : Token → List UInt8 → Prop
  | number {n bytes} (spelled : n.Spelled bytes) : Spelled (.number n) bytes
  | string {raw} (h : Raw raw) : Spelled (.string raw) (0x22 :: raw ++ [0x22])
  | openArray : Spelled .openArray openArray.render
  | closeArray : Spelled .closeArray closeArray.render
  | openObject : Spelled .openObject openObject.render
  | closeObject : Spelled .closeObject closeObject.render
  | comma : Spelled .comma comma.render
  | colon : Spelled .colon colon.render
  | null : Spelled .null null.render
  | bool (b : Bool) : Spelled (.bool b) (bool b).render

/-- Spellings one after the other, with blanks in front of them, between them and behind them. -/
inductive Text : List Token → List UInt8 → Prop
  | nil : Text [] []
  | blank {tokens b bytes} (h : isBlank b = true) (more : Text tokens bytes) :
      Text tokens (b :: bytes)
  | token {token tokens front bytes} (spelled : token.Spelled front) (more : Text tokens bytes) :
      Text (token :: tokens) (front ++ bytes)

/-- After a number there is a comma, or the end of an array or of an object. -/
def Follows (before after : Token) : Prop :=
  (∀ n, before ≠ .number n) ∨ after = .comma ∨ after = .closeArray ∨ after = .closeObject

variable {token : Token} {tokens : List Token} {front bytes rest : List UInt8}

/-! ### One token -/

/-- The first byte of a number is a digit or a sign. -/
theorem head?_number {n : Number} (spelled : n.Spelled bytes) :
    ∃ b rest, bytes = b :: rest ∧ (isDigit b = true ∨ b = 0x2D) := by
  obtain ⟨sound, -⟩ := spelled
  cases n.negative with
  | true => exact ⟨_, _, rfl, .inr rfl⟩
  | false =>
    cases hwhole : n.whole with
    | nil => exact absurd hwhole sound.whole_ne_nil
    | cons b rest =>
      exact ⟨_, _, rfl, .inl (sound.whole_digits b (hwhole ▸ List.mem_cons_self))⟩

/-- Nothing but a number begins with a digit or a sign, and no blank is one. -/
theorem ne_of_isDigit {b : UInt8} (h : isDigit b = true ∨ b = 0x2D) :
    isBlank b = false ∧ b ≠ 0x5B ∧ b ≠ 0x5D ∧ b ≠ 0x7B ∧ b ≠ 0x7D ∧ b ≠ 0x2C ∧ b ≠ 0x3A ∧
      b ≠ 0x22 ∧ b ≠ 0x6E ∧ b ≠ 0x74 ∧ b ≠ 0x66 := by
  have hrange : 0x30 ≤ b.toNat ∧ b.toNat ≤ 0x39 ∨ b.toNat = 0x2D := by
    rcases h with h | h
    · left
      simpa only [isDigit, Bool.and_eq_true, decide_eq_true_eq, UInt8.le_iff_toNat_le,
        UInt8.reduceToNat] using h
    · exact .inr (h ▸ rfl)
  simp only [isBlank, Bool.or_eq_false_iff, decide_eq_false_iff_not, ne_eq, ← UInt8.toNat_inj,
    UInt8.reduceToNat]
  omega

/-- A token begins with a byte that is no blank. -/
theorem Spelled.eq_cons (spelled : token.Spelled front) :
    ∃ b rest, front = b :: rest ∧ isBlank b = false := by
  cases spelled with
  | number spelled =>
    obtain ⟨b, rest, hfront, hb⟩ := head?_number spelled
    exact ⟨b, rest, hfront, (ne_of_isDigit hb).1⟩
  | bool b => cases b <;> exact ⟨_, _, rfl, rfl⟩
  | _ => exact ⟨_, _, rfl, rfl⟩

theorem scanWord?_append (word : String) (token : Token) (rest : List UInt8) :
    scanWord? word token (Utf8.encode word ++ rest) = some (token, rest) := by
  rw [scanWord?, Utf8.dropStart?_append, Option.map_some]

/-- A spelled token is found at the front. -/
theorem Spelled.next?_append (spelled : token.Spelled front)
    (hrest : (∃ n, token = .number n) → ∀ b ∈ rest.head?, continuesNumber b = false) :
    next? (front ++ rest) = some (token, rest) := by
  cases spelled with
  | @number n _ spelled =>
    obtain ⟨b, more, rfl, hb⟩ := head?_number spelled
    obtain ⟨-, h₁, h₂, h₃, h₄, h₅, h₆, h₇, h₈, h₉, h₁₀⟩ := ne_of_isDigit hb
    have hscan := spelled.scan?_append (hrest ⟨n, rfl⟩)
    -- the first byte decides that it is a number
    rw [List.cons_append] at hscan ⊢
    simp only [next?, h₁, h₂, h₃, h₄, h₅, h₆, h₇, h₈, h₉, h₁₀, if_false, hscan, Option.map_some]
  | @string raw h =>
    have hbytes : 0x22 :: raw ++ [0x22] ++ rest = 0x22 :: (raw ++ 0x22 :: rest) := by
      simp only [List.cons_append, List.append_assoc, List.nil_append]
    rw [hbytes, next?]
    simp only [h.scanString?_append rest, Option.map_some]
    rfl
  | bool b =>
    cases b with
    | true =>
      have hword := scanWord?_append "true" (.bool true) rest
      rwa [show Utf8.encode "true" = [0x74, 0x72, 0x75, 0x65] from rfl] at hword
    | false =>
      have hword := scanWord?_append "false" (.bool false) rest
      rwa [show Utf8.encode "false" = [0x66, 0x61, 0x6C, 0x73, 0x65] from rfl] at hword
  | null =>
    have hword := scanWord?_append "null" .null rest
    rwa [show Utf8.encode "null" = [0x6E, 0x75, 0x6C, 0x6C] from rfl] at hword
  | _ => rfl

theorem of_scanWord? {word : String} {found : Token}
    (h : scanWord? word found bytes = some (token, rest)) :
    token = found ∧ bytes = Utf8.encode word ++ rest := by
  obtain ⟨rest', hdrop, heq⟩ := Option.map_eq_some_iff.1 h
  cases heq
  exact ⟨rfl, Utf8.dropStart?_eq_some hdrop⟩

/-- What is found at the front is spelled there. -/
theorem spelled_of_next? (h : next? bytes = some (token, rest)) :
    ∃ front, bytes = front ++ rest ∧ token.Spelled front := by
  have word {w : String} {found : Token} (hword : scanWord? w found bytes = some (token, rest))
      (spelled : found.Spelled (Utf8.encode w)) :
      ∃ front, bytes = front ++ rest ∧ token.Spelled front := by
    obtain ⟨rfl, hbytes⟩ := of_scanWord? hword
    exact ⟨_, hbytes, spelled⟩
  cases bytes with
  | nil => cases h
  | cons b after =>
    simp only [next?] at h
    -- the first byte decides, as in reading
    iterate 6
      split at h
      · next hb =>
        cases h
        exact ⟨[b], rfl, hb ▸ by constructor⟩
    split at h
    · next hb =>
      obtain ⟨⟨raw, _⟩, hscan, heq⟩ := Option.map_eq_some_iff.1 h
      cases heq
      obtain ⟨hraw, rfl⟩ := raw_of_scanString? hscan
      exact ⟨0x22 :: raw ++ [0x22], by simp [hb], .string hraw⟩
    split at h
    · exact word h .null
    split at h
    · exact word h (.bool true)
    split at h
    · exact word h (.bool false)
    · obtain ⟨⟨n, _⟩, hscan, heq⟩ := Option.map_eq_some_iff.1 h
      cases heq
      obtain ⟨front, hbytes, spelled⟩ := Number.spelled_of_scan? hscan
      exact ⟨front, hbytes, .number spelled⟩

/-! ### All tokens -/

/-- A blank does not belong to a number. -/
theorem continuesNumber_of_isBlank {b : UInt8} (h : isBlank b = true) :
    continuesNumber b = false := by
  simp only [isBlank, Bool.or_eq_true, decide_eq_true_eq, or_assoc] at h
  obtain rfl | rfl | rfl | rfl := h <;> rfl

/-- What may stand after a number does not continue it. -/
theorem Text.head? (text : Text tokens bytes)
    (h : ∀ token ∈ tokens.head?, token = .comma ∨ token = .closeArray ∨ token = .closeObject) :
    ∀ b ∈ bytes.head?, continuesNumber b = false := by
  cases text with
  | nil => nofun
  | blank hb =>
    rintro b ⟨⟩
    exact continuesNumber_of_isBlank hb
  | token spelled =>
    intro b hb
    obtain rfl | rfl | rfl := h _ rfl
    all_goals
      cases spelled
      cases hb
      rfl

/-- Every token takes one unit of fuel, and so does every blank. -/
theorem Text.scanFrom?_eq_some (text : Text tokens bytes) (chain : tokens.IsChain Follows)
    {fuel : Nat} (hfuel : bytes.length < fuel) (found : List Token) :
    scanFrom? fuel bytes found = some (found.reverse ++ tokens) := by
  induction text generalizing fuel found with
  | nil =>
    cases fuel with
    | zero => cases hfuel
    | succ fuel => rw [scanFrom?, List.append_nil]
  | blank hb more ih =>
    cases fuel with
    | zero => cases hfuel
    | succ fuel =>
      rw [scanFrom?, if_pos hb]
      exact ih chain (Nat.lt_of_succ_lt_succ hfuel) found
  | @token token tokens front bytes spelled more ih =>
    cases fuel with
    | zero => cases hfuel
    | succ fuel =>
      -- only a number has to know what comes after it
      have hrest : (∃ n, token = .number n) → ∀ b ∈ bytes.head?, continuesNumber b = false := by
        rintro ⟨n, rfl⟩
        refine more.head? fun after hafter => ?_
        exact (List.isChain_cons.1 chain |>.1 after hafter).resolve_left fun h => h n rfl
      have hnext := spelled.next?_append hrest
      obtain ⟨b, others, rfl, hblank⟩ := spelled.eq_cons
      rw [List.cons_append] at hnext hfuel ⊢
      rw [List.length_cons, List.length_append] at hfuel
      rw [scanFrom?, hblank, hnext]
      simp only [Bool.false_eq_true, if_false]
      rw [ih chain.tail (by omega), List.reverse_cons, List.append_assoc, List.singleton_append]

/-- All tokens of a text are found. -/
theorem Text.scan?_eq_some (text : Text tokens bytes) (chain : tokens.IsChain Follows) :
    scan? bytes = some tokens :=
  text.scanFrom?_eq_some chain (Nat.lt_succ_self _) []

theorem text_of_scanFrom? {fuel : Nat} {found : List Token}
    (h : scanFrom? fuel bytes found = some tokens) :
    ∃ more, tokens = found.reverse ++ more ∧ Text more bytes := by
  fun_induction scanFrom? fuel bytes found with
  | case1 => cases h
  | case2 =>
    cases h
    exact ⟨[], (List.append_nil _).symm, .nil⟩
  | case3 _ _ _ _ hblank ih =>
    obtain ⟨more, rfl, text⟩ := ih h
    exact ⟨more, rfl, .blank hblank text⟩
  | case4 _ _ _ _ _ token rest hnext ih =>
    obtain ⟨more, rfl, text⟩ := ih h
    obtain ⟨front, hbytes, spelled⟩ := spelled_of_next? hnext
    refine ⟨token :: more, by simp, hbytes ▸ .token spelled text⟩
  | case5 => cases h

/-- What is found as the tokens of some bytes is spelled there. -/
theorem text_of_scan? (h : scan? bytes = some tokens) : Text tokens bytes := by
  obtain ⟨more, rfl, text⟩ := text_of_scanFrom? h
  exact text

/-- Tokens as they are written, one directly after the other, are a text of them. -/
theorem text_flatMap_render (spelled : ∀ token ∈ tokens, token.Spelled token.render) :
    Text tokens (tokens.flatMap render) := by
  induction tokens with
  | nil => exact .nil
  | cons token tokens ih =>
    rw [List.flatMap_cons]
    exact .token (spelled token List.mem_cons_self)
      (ih fun other hother => spelled other (List.mem_cons_of_mem token hother))

end Isolation.Json.Token
