import Isolation.Json.Node
import Isolation.Proofs.Json.Token

/-!
# Which documents are written in a text

Reading finds exactly the document of which a text spells the tokens. The machine that reads tokens
takes all tokens of a value as one step, which completes the value; and wherever it stands, the
tokens that it has taken are told by the arrays and objects that it has not finished.

## Main definitions

* `Node.Written` — a document and the texts that it may be written as
* `Node.Completes` — what the machine makes of the tokens of a value
* `Node.Reached` — where the machine may stand after some tokens
* `Node.Sound` — a document with sound leaves and keys

## Main results

* `Node.completes` — the tokens of a value complete it
* `Node.Reached.step` — one token
* `Node.parse?_eq_some_iff` — reading finds the document that is written
* `Node.Sound.parse?_render` — reading what was written
-/

namespace Isolation.Json.Node

/-- A document is written in a text that spells its tokens. -/
def Written (node : Node) (bytes : List UInt8) : Prop := Token.Text node.tokens bytes

/-- Numbers have sound parts, strings and keys are quoted texts. -/
inductive Sound : Node → Prop
  | null : Sound .null
  | bool (b : Bool) : Sound (.bool b)
  | number {n} (sound : n.Sound) : Sound (.number n)
  | string (text : String) : Sound (.string (quoted text))
  | array {items} (sound : ∀ item ∈ items, Sound item) : Sound (.array items)
  | object {members} (keys : ∀ member ∈ members, ∃ text, member.1 = quoted text)
      (sound : ∀ member ∈ members, Sound member.2) : Sound (.object members)

/-- Induction on a document, where the parts of an array or of an object are its members. -/
@[induction_eliminator]
theorem induction_parts {motive : Node → Prop} (null : motive .null)
    (bool : ∀ b, motive (.bool b)) (number : ∀ n, motive (.number n))
    (string : ∀ raw, motive (.string raw))
    (array : ∀ items, (∀ item ∈ items, motive item) → motive (.array items))
    (object : ∀ members, (∀ member ∈ members, motive member.2) → motive (.object members))
    (node : Node) : motive node :=
  @Node.rec motive (fun items => ∀ item ∈ items, motive item)
    (fun members => ∀ member ∈ members, motive member.2) (fun member => motive member.2)
    null bool number string array object nofun
    (fun _ _ hitem hitems => List.forall_mem_cons.2 ⟨hitem, hitems⟩) nofun
    (fun _ _ hmember hmembers => List.forall_mem_cons.2 ⟨hmember, hmembers⟩)
    (fun _ _ hvalue => hvalue) node

/-! ### The tokens of a document -/

section Tokens

variable {items : List Node} {members : List (List UInt8 × Node)}

theorem spelled_moreItemTokens
    (h : ∀ item ∈ items, ∀ token ∈ item.tokens, token.Spelled token.render) :
    ∀ token ∈ moreItemTokens items, token.Spelled token.render := by
  induction items with
  | nil => exact List.forall_mem_singleton.2 .closeArray
  | cons item items ih =>
    intro token htoken
    rw [moreItemTokens, List.cons_append, List.mem_cons, List.mem_append] at htoken
    obtain rfl | htoken | htoken := htoken
    · exact .comma
    · exact h item List.mem_cons_self token htoken
    · exact ih (fun other hother => h other (List.mem_cons_of_mem item hother)) token htoken

theorem spelled_moreMemberTokens (keys : ∀ member ∈ members, ∃ text, member.1 = quoted text)
    (h : ∀ member ∈ members, ∀ token ∈ member.2.tokens, token.Spelled token.render) :
    ∀ token ∈ moreMemberTokens members, token.Spelled token.render := by
  induction members with
  | nil => exact List.forall_mem_singleton.2 .closeObject
  | cons member members ih =>
    obtain ⟨key, value⟩ := member
    obtain ⟨text, rfl⟩ : ∃ text, key = quoted text := keys _ List.mem_cons_self
    intro token htoken
    simp only [moreMemberTokens, List.cons_append, List.mem_cons, List.mem_append] at htoken
    obtain rfl | rfl | rfl | htoken | htoken := htoken
    · exact .comma
    · exact .string (raw_quoted text)
    · exact .colon
    · exact h _ List.mem_cons_self token htoken
    · exact ih (fun other hother => keys other (List.mem_cons_of_mem _ hother))
        (fun other hother => h other (List.mem_cons_of_mem _ hother)) token htoken

/-- All tokens of a sound document are spelled as they are written. -/
theorem Sound.spelled_tokens {node : Node} (sound : node.Sound) :
    ∀ token ∈ node.tokens, token.Spelled token.render := by
  induction sound with
  | null => exact List.forall_mem_singleton.2 .null
  | bool b => exact List.forall_mem_singleton.2 (.bool b)
  | number sound => exact List.forall_mem_singleton.2 (.number sound.spelled)
  | string text => exact List.forall_mem_singleton.2 (.string (raw_quoted text))
  | @array items sound ih =>
    intro token htoken
    rw [tokens, List.mem_cons] at htoken
    obtain rfl | htoken := htoken
    · exact .openArray
    · cases items with
      | nil => exact spelled_moreItemTokens ih token htoken
      | cons item items =>
        refine spelled_moreItemTokens ih token ?_
        rw [moreItemTokens]
        exact List.mem_cons_of_mem _ htoken
  | @object members keys sound ih =>
    intro token htoken
    rw [tokens, List.mem_cons] at htoken
    obtain rfl | htoken := htoken
    · exact .openObject
    · cases members with
      | nil => exact spelled_moreMemberTokens keys ih token htoken
      | cons member members =>
        refine spelled_moreMemberTokens keys ih token ?_
        rw [moreMemberTokens]
        exact List.mem_cons_of_mem _ htoken

/-- Nothing is said about what stands after a token that is no number. -/
theorem isChain_cons {token : Token} {tokens : List Token} (h : ∀ n, token ≠ .number n)
    (chain : tokens.IsChain Token.Follows) : (token :: tokens).IsChain Token.Follows :=
  chain.cons fun _ _ => .inl h

theorem isChain_append {tokens more : List Token} (chain : tokens.IsChain Token.Follows)
    (chain' : more.IsChain Token.Follows)
    (h : ∀ token ∈ more.head?, token = .comma ∨ token = .closeArray ∨ token = .closeObject) :
    (tokens ++ more).IsChain Token.Follows :=
  List.isChain_append.2 ⟨chain, chain', fun _ _ token htoken => .inr (h token htoken)⟩

theorem isChain_moreItemTokens (h : ∀ item ∈ items, item.tokens.IsChain Token.Follows) :
    (moreItemTokens items).IsChain Token.Follows ∧
      ∀ token ∈ (moreItemTokens items).head?,
        token = .comma ∨ token = .closeArray ∨ token = .closeObject := by
  induction items with
  | nil =>
    refine ⟨.singleton _, ?_⟩
    rintro token ⟨⟩
    exact .inr (.inl rfl)
  | cons item items ih =>
    obtain ⟨chain, hhead⟩ := ih fun other hother => h other (List.mem_cons_of_mem item hother)
    constructor
    · exact isChain_cons nofun (isChain_append (h item List.mem_cons_self) chain hhead)
    · rintro token ⟨⟩
      exact .inl rfl

theorem isChain_moreMemberTokens (h : ∀ member ∈ members, member.2.tokens.IsChain Token.Follows) :
    (moreMemberTokens members).IsChain Token.Follows ∧
      ∀ token ∈ (moreMemberTokens members).head?,
        token = .comma ∨ token = .closeArray ∨ token = .closeObject := by
  induction members with
  | nil =>
    refine ⟨.singleton _, ?_⟩
    rintro token ⟨⟩
    exact .inr (.inr rfl)
  | cons member members ih =>
    obtain ⟨key, value⟩ := member
    obtain ⟨chain, hhead⟩ := ih fun other hother => h other (List.mem_cons_of_mem _ hother)
    constructor
    · have hvalue := isChain_append (h _ List.mem_cons_self) chain hhead
      exact isChain_cons nofun (isChain_cons nofun (isChain_cons nofun hvalue))
    · rintro token ⟨⟩
      exact .inl rfl

/-- In a document every number is followed by what cannot belong to it. -/
theorem isChain_tokens (node : Node) : node.tokens.IsChain Token.Follows := by
  induction node with
  | null | bool | number | string => exact .singleton _
  | array items ih =>
    rw [tokens]
    refine isChain_cons nofun ?_
    cases items with
    | nil => exact .singleton _
    | cons item items =>
      obtain ⟨chain, -⟩ := isChain_moreItemTokens ih
      rw [moreItemTokens] at chain
      exact chain.tail
  | object members ih =>
    rw [tokens]
    refine isChain_cons nofun ?_
    cases members with
    | nil => exact .singleton _
    | cons member members =>
      obtain ⟨chain, -⟩ := isChain_moreMemberTokens ih
      rw [moreMemberTokens] at chain
      exact chain.tail

end Tokens

/-! ### The machine -/

section Machine

/-- The tokens of a value complete it, wherever a value may stand. -/
def Completes (node : Node) : Prop :=
  ∀ (outer : List Unfinished) (result : Option Node) (expected : Expected),
    expected = .value ∨ expected = .itemOrEnd →
      node.tokens.foldlM Reading.step? ⟨outer, expected, result⟩ = Reading.complete? node outer

theorem completes_of_value? {node : Node} {token : Token} (htokens : node.tokens = [token])
    (hvalue : ∀ state : Reading, state.value? token = Reading.complete? node state.unfinished)
    (hclose : token ≠ .closeArray) : node.Completes := by
  rintro outer result expected (rfl | rfl)
  · rw [htokens, List.foldlM_cons]
    simp only [Reading.step?, hvalue, List.foldlM_nil, bind_pure]
  · rw [htokens, List.foldlM_cons]
    simp only [Reading.step?, hclose, if_false, hvalue, List.foldlM_nil, bind_pure]

theorem foldlM_moreItemTokens {items : List Node} (h : ∀ item ∈ items, item.Completes)
    (found : List Node) (outer : List Unfinished) (result : Option Node) :
    (moreItemTokens items).foldlM Reading.step? ⟨.array found :: outer, .separator, result⟩ =
      Reading.complete? (.array (found.reverse ++ items)) outer := by
  induction items generalizing found result with
  | nil =>
    rw [List.append_nil, moreItemTokens, List.foldlM_cons]
    simp only [List.foldlM_nil, bind_pure]
    rfl
  | cons item items ih =>
    have hitem := h item List.mem_cons_self (.array found :: outer) result .value (.inl rfl)
    have hmore := ih (fun other hother => h other (List.mem_cons_of_mem item hother))
      (item :: found) none
    rw [List.reverse_cons, List.append_assoc, List.singleton_append] at hmore
    rw [moreItemTokens, List.cons_append, List.foldlM_cons, ← hmore]
    -- the comma is read, and the machine waits for the next item
    change (item.tokens ++ moreItemTokens items).foldlM Reading.step? _ = _
    rw [List.foldlM_append, hitem]
    rfl

theorem foldlM_moreMemberTokens {members : List (List UInt8 × Node)}
    (h : ∀ member ∈ members, member.2.Completes) (found : List (List UInt8 × Node))
    (outer : List Unfinished) (result : Option Node) :
    (moreMemberTokens members).foldlM Reading.step? ⟨.object found :: outer, .separator, result⟩ =
      Reading.complete? (.object (found.reverse ++ members)) outer := by
  induction members generalizing found result with
  | nil =>
    rw [List.append_nil, moreMemberTokens, List.foldlM_cons]
    simp only [List.foldlM_nil, bind_pure]
    rfl
  | cons member members ih =>
    obtain ⟨key, value⟩ := member
    have hvalue := h _ List.mem_cons_self (.member found key :: outer) none .value (.inl rfl)
    have hmore := ih (fun other hother => h other (List.mem_cons_of_mem _ hother))
      ((key, value) :: found) none
    rw [List.reverse_cons, List.append_assoc, List.singleton_append] at hmore
    rw [moreMemberTokens, ← hmore]
    -- the comma, the key and the colon are read, and the machine waits for the value
    change (value.tokens ++ moreMemberTokens members).foldlM Reading.step?
      ⟨.member found key :: outer, .value, none⟩ = _
    rw [List.foldlM_append, hvalue]
    rfl

theorem foldlM_itemTokens {items : List Node} (h : ∀ item ∈ items, item.Completes)
    (outer : List Unfinished) :
    (itemTokens items).foldlM Reading.step? ⟨.array [] :: outer, .itemOrEnd, none⟩ =
      Reading.complete? (.array items) outer := by
  cases items with
  | nil =>
    rw [itemTokens, List.foldlM_cons]
    simp only [List.foldlM_nil, bind_pure]
    rfl
  | cons item items =>
    have hitem := h item List.mem_cons_self (.array [] :: outer) none .itemOrEnd (.inr rfl)
    rw [itemTokens, List.foldlM_append, hitem]
    exact foldlM_moreItemTokens (fun other hother => h other (List.mem_cons_of_mem item hother))
      [item] outer none

theorem foldlM_memberTokens {members : List (List UInt8 × Node)}
    (h : ∀ member ∈ members, member.2.Completes) (outer : List Unfinished) :
    (memberTokens members).foldlM Reading.step? ⟨.object [] :: outer, .keyOrEnd, none⟩ =
      Reading.complete? (.object members) outer := by
  cases members with
  | nil =>
    rw [memberTokens, List.foldlM_cons]
    simp only [List.foldlM_nil, bind_pure]
    rfl
  | cons member members =>
    obtain ⟨key, value⟩ := member
    have hvalue := h _ List.mem_cons_self (.member [] key :: outer) none .value (.inl rfl)
    rw [memberTokens]
    change (value.tokens ++ moreMemberTokens members).foldlM Reading.step?
      ⟨.member [] key :: outer, .value, none⟩ = _
    rw [List.foldlM_append, hvalue]
    exact foldlM_moreMemberTokens
      (fun other hother => h other (List.mem_cons_of_mem _ hother)) [(key, value)] outer none

/-- The tokens of a document complete it. -/
theorem completes (node : Node) : node.Completes := by
  induction node with
  | null => exact completes_of_value? rfl (fun _ => rfl) nofun
  | bool b => exact completes_of_value? rfl (fun _ => rfl) nofun
  | number n => exact completes_of_value? rfl (fun _ => rfl) nofun
  | string raw => exact completes_of_value? rfl (fun _ => rfl) nofun
  | array items ih =>
    rintro outer result expected (rfl | rfl) <;> exact foldlM_itemTokens ih outer
  | object members ih =>
    rintro outer result expected (rfl | rfl) <;> exact foldlM_memberTokens ih outer

theorem ofTokens?_tokens (node : Node) : ofTokens? node.tokens = some node := by
  have hmachine : node.tokens.foldlM Reading.step? {} =
      some { expected := .nothing, result := some node } :=
    node.completes [] none .value (.inl rfl)
  rw [ofTokens?, hmachine, Option.bind_some]

end Machine

/-! ### What the machine has taken -/

section Taken

/-- The tokens of finished items, last item first, each with the comma after it. -/
def takenItems : List Node → List Token
  | [] => []
  | item :: items => takenItems items ++ (item.tokens ++ [.comma])

/-- The tokens of finished members, last member first, each with the comma after it. -/
def takenMembers : List (List UInt8 × Node) → List Token
  | [] => []
  | (key, value) :: members =>
    takenMembers members ++ (.string key :: .colon :: value.tokens ++ [.comma])

/-- The tokens taken before a value, by the arrays and objects around it. -/
inductive Opened : List Unfinished → List Token → Prop
  | nil : Opened [] []
  | array {outer taken} (items : List Node) (h : Opened outer taken) :
      Opened (.array items :: outer) (taken ++ .openArray :: takenItems items)
  | member {outer taken} (members : List (List UInt8 × Node)) (key : List UInt8)
      (h : Opened outer taken) :
      Opened (.member members key :: outer)
        (taken ++ .openObject :: (takenMembers members ++ [.string key, .colon]))

/-- Where the machine may stand after some tokens: one case for each thing that may come next,
but two before a comma, behind an item or behind a member. -/
inductive Reached : List Token → Reading → Prop
  | value {outer taken} (h : Opened outer taken) : Reached taken ⟨outer, .value, none⟩
  | itemOrEnd {outer taken} (h : Opened outer taken) :
      Reached (taken ++ [.openArray]) ⟨.array [] :: outer, .itemOrEnd, none⟩
  | keyOrEnd {outer taken} (h : Opened outer taken) :
      Reached (taken ++ [.openObject]) ⟨.object [] :: outer, .keyOrEnd, none⟩
  | key {outer taken} (members : List (List UInt8 × Node)) (h : Opened outer taken) :
      Reached (taken ++ .openObject :: takenMembers members)
        ⟨.object members :: outer, .key, none⟩
  | colon {outer taken} (members : List (List UInt8 × Node)) (key : List UInt8)
      (h : Opened outer taken) :
      Reached (taken ++ .openObject :: (takenMembers members ++ [.string key]))
        ⟨.member members key :: outer, .colon, none⟩
  | item {outer taken} (items : List Node) (item : Node) (h : Opened outer taken) :
      Reached (taken ++ .openArray :: (takenItems items ++ item.tokens))
        ⟨.array (item :: items) :: outer, .separator, none⟩
  | member {outer taken} (members : List (List UInt8 × Node)) (key : List UInt8) (value : Node)
      (h : Opened outer taken) :
      Reached
        (taken ++ .openObject :: (takenMembers members ++ .string key :: .colon :: value.tokens))
        ⟨.object ((key, value) :: members) :: outer, .separator, none⟩
  | nothing (node : Node) : Reached node.tokens ⟨[], .nothing, some node⟩

variable {outer : List Unfinished} {taken : List Token} {state state' : Reading} {token : Token}

/-- A value that is complete stands in the innermost array or object, or is the document. -/
theorem Opened.complete (h : Opened outer taken) {node : Node}
    (hcomplete : Reading.complete? node outer = some state) :
    Reached (taken ++ node.tokens) state := by
  cases h with
  | nil =>
    cases hcomplete
    exact .nothing node
  | array items h =>
    cases hcomplete
    rw [List.append_assoc, List.cons_append]
    exact .item items node h
  | member members key h =>
    cases hcomplete
    rw [List.append_assoc, List.cons_append, List.append_assoc]
    exact .member members key node h

theorem itemTokens_reverse_append (items : List Node) (item : Node) (more : List Node) :
    itemTokens (items.reverse ++ item :: more) = takenItems items ++ itemTokens (item :: more) := by
  induction items generalizing item more with
  | nil => rfl
  | cons earlier items ih =>
    rw [List.reverse_cons, List.append_assoc, List.singleton_append, ih]
    simp only [takenItems, itemTokens, moreItemTokens, List.append_assoc, List.cons_append,
      List.nil_append]

theorem memberTokens_reverse_append (members : List (List UInt8 × Node))
    (member : List UInt8 × Node) (more : List (List UInt8 × Node)) :
    memberTokens (members.reverse ++ member :: more) =
      takenMembers members ++ memberTokens (member :: more) := by
  induction members generalizing member more with
  | nil => rfl
  | cons earlier members ih =>
    rw [List.reverse_cons, List.append_assoc, List.singleton_append, ih]
    simp only [takenMembers, memberTokens, moreMemberTokens, List.append_assoc, List.cons_append,
      List.nil_append]

/-- The tokens of an array of which the last item is known. -/
theorem tokens_array_reverse (items : List Node) (item : Node) :
    (array (item :: items).reverse).tokens =
      .openArray :: (takenItems items ++ item.tokens) ++ [.closeArray] := by
  rw [tokens, List.reverse_cons, itemTokens_reverse_append, itemTokens, moreItemTokens,
    List.cons_append, List.append_assoc]

theorem tokens_object_reverse (members : List (List UInt8 × Node)) (key : List UInt8)
    (value : Node) :
    (object ((key, value) :: members).reverse).tokens =
      .openObject :: (takenMembers members ++ .string key :: .colon :: value.tokens) ++
        [.closeObject] := by
  rw [tokens, List.reverse_cons, memberTokens_reverse_append, memberTokens, moreMemberTokens]
  simp only [List.cons_append, List.append_assoc]

/-- A token where a value may begin. -/
theorem Opened.value (h : Opened outer taken) {expected : Expected}
    (hvalue : Reading.value? ⟨outer, expected, none⟩ token = some state) :
    Reached (taken ++ [token]) state := by
  cases token with
  | null => exact h.complete hvalue
  | bool b => exact h.complete hvalue
  | number n => exact h.complete hvalue
  | string raw => exact h.complete hvalue
  | openArray =>
    cases hvalue
    exact .itemOrEnd h
  | openObject =>
    cases hvalue
    exact .keyOrEnd h
  | _ => cases hvalue

/-- A token where a key may stand. -/
theorem Opened.key (h : Opened outer taken) {members : List (List UInt8 × Node)}
    {expected : Expected}
    (hkey : Reading.key? ⟨.object members :: outer, expected, none⟩ token = some state) :
    Reached (taken ++ .openObject :: takenMembers members ++ [token]) state := by
  cases token with
  | string raw =>
    cases hkey
    rw [List.append_assoc, List.cons_append]
    exact .colon members raw h
  | _ => cases hkey

/-- One token more. -/
theorem Reached.step (reached : Reached taken state) (hstep : state.step? token = some state') :
    Reached (taken ++ [token]) state' := by
  cases reached with
  | value h => exact h.value hstep
  | itemOrEnd h =>
    simp only [Reading.step?] at hstep
    split at hstep
    · next hclose =>
      subst hclose
      rw [List.append_assoc]
      exact h.complete hstep
    · exact (Opened.array [] h).value hstep
  | keyOrEnd h =>
    simp only [Reading.step?] at hstep
    split at hstep
    · next hclose =>
      subst hclose
      rw [List.append_assoc]
      exact h.complete hstep
    · exact h.key hstep
  | key members h =>
    simp only [Reading.step?] at hstep
    exact h.key hstep
  | colon members key h =>
    simp only [Reading.step?] at hstep
    split at hstep
    · next hcolon =>
      subst hcolon
      cases hstep
      simp only [List.append_assoc, List.cons_append, List.nil_append]
      exact .value (.member members key h)
    · cases hstep
  | item items item h =>
    simp only [Reading.step?] at hstep
    split at hstep
    · next hcomma =>
      subst hcomma
      cases hstep
      simp only [List.append_assoc, List.cons_append]
      exact .value (.array (item :: items) h)
    · cases token with
      | closeArray =>
        rw [List.append_assoc, ← tokens_array_reverse]
        exact h.complete hstep
      | _ => cases hstep
  | member members key value h =>
    simp only [Reading.step?] at hstep
    split at hstep
    · next hcomma =>
      subst hcomma
      cases hstep
      simp only [List.append_assoc, List.cons_append]
      exact .key ((key, value) :: members) h
    · cases token with
      | closeObject =>
        rw [List.append_assoc, ← tokens_object_reverse]
        exact h.complete hstep
      | _ => cases hstep
  | nothing => cases hstep

theorem Reached.foldlM (reached : Reached taken state) {tokens : List Token}
    (h : tokens.foldlM Reading.step? state = some state') : Reached (taken ++ tokens) state' := by
  induction tokens generalizing taken state with
  | nil =>
    cases h
    rwa [List.append_nil]
  | cons token tokens ih =>
    rw [List.foldlM_cons] at h
    obtain ⟨next, hnext, hmore⟩ := Option.bind_eq_some_iff.1 h
    have hreached := ih (reached.step hnext) hmore
    rwa [List.append_assoc] at hreached

/-- Tokens make up a document only if they are those of the document. -/
theorem ofTokens?_eq_some_iff {tokens : List Token} {node : Node} :
    ofTokens? tokens = some node ↔ tokens = node.tokens := by
  constructor
  · intro h
    obtain ⟨state, hrun, hresult⟩ := Option.bind_eq_some_iff.1 h
    have reached : Reached tokens state := (Reached.value .nil).foldlM hrun
    cases reached with
    | nothing =>
      cases hresult
      rfl
    | _ => cases hresult
  · rintro rfl
    exact node.ofTokens?_tokens

end Taken

/-- Reading finds the document that is written in a text, and there is no other. -/
theorem parse?_eq_some_iff {bytes : List UInt8} {node : Node} :
    parse? bytes = some node ↔ node.Written bytes := by
  constructor
  · intro h
    obtain ⟨tokens, hscan, htokens⟩ := Option.bind_eq_some_iff.1 h
    rw [Written, ← ofTokens?_eq_some_iff.1 htokens]
    exact Token.text_of_scan? hscan
  · intro written
    rw [parse?, Token.Text.scan?_eq_some written node.isChain_tokens, Option.bind_some,
      ofTokens?_tokens]

/-- A sound document is read back from what is written. -/
theorem Sound.parse?_render {node : Node} (sound : node.Sound) :
    parse? node.render = some node :=
  parse?_eq_some_iff.2 (Token.text_flatMap_render sound.spelled_tokens)

end Isolation.Json.Node
