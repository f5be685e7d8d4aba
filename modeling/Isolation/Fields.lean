/-!
# Fields in key order

A list of key-value pairs that is kept in ascending order of its keys. The functions work on bare
lists, so that a tree type may hold such a list among its constructor's arguments.

## Main definitions

* `Fields.Ordered` — the keys ascend strictly, hence are distinct
* `Fields.insert`, `Fields.find?`, `Fields.erase`, `Fields.ofList`

## Main results

* `Fields.ordered_insert`, `Fields.ordered_erase`, `Fields.ordered_ofList` — the order is kept
* `Fields.find?_insert` — the last value set under a key is the one found
* `Fields.ext_find?` — ordered fields are determined by what is found in them
-/

namespace Isolation.Fields

universe u

variable {α : Type u}

/-- The keys ascend strictly. -/
def Ordered (fields : List (String × α)) : Prop :=
  fields.Pairwise fun a b => a.1 < b.1

/-- Sets a key, replacing the value it had. -/
def insert (key : String) (value : α) : List (String × α) → List (String × α)
  | [] => [(key, value)]
  | entry :: rest =>
    if key < entry.1 then (key, value) :: entry :: rest
    else if key = entry.1 then (key, value) :: rest
    else entry :: insert key value rest

/-- The value under a key. -/
def find? (key : String) : List (String × α) → Option α
  | [] => none
  | entry :: rest => if key = entry.1 then some entry.2 else find? key rest

/-- Removes a key. -/
def erase (key : String) (fields : List (String × α)) : List (String × α) :=
  fields.filter fun entry => entry.1 ≠ key

/-- Sets every pair in turn, so that of two pairs with one key the later counts. -/
def ofList (pairs : List (String × α)) : List (String × α) :=
  pairs.foldl (fun fields pair => insert pair.1 pair.2 fields) []

theorem lt_of_not_lt_of_ne {a b : String} (hlt : ¬ a < b) (hne : a ≠ b) : b < a := by
  rcases Std.lt_trichotomy a b with h | h | h
  · exact absurd h hlt
  · exact absurd h hne
  · exact h

theorem mem_insert {key : String} {value : α} {entry : String × α} {fields : List (String × α)}
    (h : entry ∈ insert key value fields) : entry = (key, value) ∨ entry ∈ fields := by
  induction fields with
  | nil => simpa [insert] using h
  | cons first rest ih =>
    rw [insert] at h
    split at h
    · simpa using h
    · split at h
      · rcases List.mem_cons.1 h with h | h
        · exact .inl h
        · exact .inr (List.mem_cons_of_mem _ h)
      · rcases List.mem_cons.1 h with h | h
        · exact .inr (h ▸ List.mem_cons_self)
        · exact (ih h).imp_right (List.mem_cons_of_mem _)

theorem ordered_nil : Ordered ([] : List (String × α)) := List.Pairwise.nil

theorem ordered_insert {key : String} {value : α} {fields : List (String × α)}
    (h : Ordered fields) : Ordered (insert key value fields) := by
  induction fields with
  | nil => exact List.pairwise_singleton _ _
  | cons first rest ih =>
    have hall := (List.pairwise_cons.1 h).1
    have hrest := (List.pairwise_cons.1 h).2
    rw [insert]
    split
    · next hlt =>
      refine List.pairwise_cons.2 ⟨fun entry hmem => ?_, h⟩
      rcases List.mem_cons.1 hmem with rfl | hmem
      · exact hlt
      · exact String.lt_trans hlt (hall entry hmem)
    · next hlt =>
      split
      · next heq => exact List.pairwise_cons.2 ⟨fun entry hmem => heq ▸ hall entry hmem, hrest⟩
      · next hne =>
        refine List.pairwise_cons.2 ⟨fun entry hmem => ?_, ih hrest⟩
        rcases mem_insert hmem with rfl | hmem
        · exact lt_of_not_lt_of_ne hlt hne
        · exact hall entry hmem

theorem ordered_erase {key : String} {fields : List (String × α)} (h : Ordered fields) :
    Ordered (erase key fields) :=
  List.Pairwise.filter _ h

theorem ordered_foldl_insert {pairs fields : List (String × α)} (h : Ordered fields) :
    Ordered (pairs.foldl (fun fields pair => insert pair.1 pair.2 fields) fields) := by
  induction pairs generalizing fields with
  | nil => exact h
  | cons pair pairs ih => exact ih (ordered_insert h)

theorem ordered_ofList (pairs : List (String × α)) : Ordered (ofList pairs) :=
  ordered_foldl_insert ordered_nil

@[simp] theorem find?_nil (key : String) : find? key ([] : List (String × α)) = none := rfl

theorem find?_insert (key other : String) (value : α) (fields : List (String × α)) :
    find? other (insert key value fields) =
      if other = key then some value else find? other fields := by
  induction fields with
  | nil => rfl
  | cons first rest ih =>
    rw [insert]
    split
    · simp only [find?]
    · split
      · next heq =>
        simp only [find?, heq]
        split <;> rfl
      · next hne =>
        rw [find?, ih, find?]
        by_cases h : other = first.1
        · have : other ≠ key := fun h' => hne (h' ▸ h)
          simp [h, show first.1 ≠ key from fun h' => hne h'.symm]
        · simp [h]

theorem find?_eq_none {key : String} {fields : List (String × α)}
    (h : ∀ entry ∈ fields, key < entry.1) : find? key fields = none := by
  induction fields with
  | nil => rfl
  | cons first rest ih =>
    have hne : key ≠ first.1 := fun heq =>
      String.lt_irrefl key (heq ▸ h first List.mem_cons_self)
    rw [find?, if_neg hne]
    exact ih fun entry hmem => h entry (List.mem_cons_of_mem _ hmem)

theorem ext_find? {fields other : List (String × α)} (hf : Ordered fields) (ho : Ordered other)
    (h : ∀ key, find? key fields = find? key other) : fields = other := by
  induction fields generalizing other with
  | nil =>
    cases other with
    | nil => rfl
    | cons first rest => simpa [find?] using h first.1
  | cons first rest ih =>
    have hf' := List.pairwise_cons.1 hf
    cases other with
    | nil => simpa [find?] using h first.1
    | cons first' rest' =>
      have ho' := List.pairwise_cons.1 ho
      -- the smaller of two first keys could not be found in the other list
      have hkey : first.1 = first'.1 := by
        rcases Std.lt_trichotomy first.1 first'.1 with hlt | heq | hlt
        · have hnone : find? first.1 (first' :: rest') = none :=
            find?_eq_none fun entry hmem => by
              rcases List.mem_cons.1 hmem with rfl | hmem
              · exact hlt
              · exact String.lt_trans hlt (ho'.1 entry hmem)
          have := h first.1
          rw [hnone] at this
          simp [find?] at this
        · exact heq
        · have hnone : find? first'.1 (first :: rest) = none :=
            find?_eq_none fun entry hmem => by
              rcases List.mem_cons.1 hmem with rfl | hmem
              · exact hlt
              · exact String.lt_trans hlt (hf'.1 entry hmem)
          have := h first'.1
          rw [hnone] at this
          simp [find?] at this
      have hvalue : first.2 = first'.2 := by
        have := h first.1
        simpa [find?, hkey] using this
      have hfirst : first = first' := Prod.ext hkey hvalue
      subst hfirst
      congr 1
      -- behind the first entries its key is found in neither list
      refine ih hf'.2 ho'.2 fun key => ?_
      by_cases hk : key = first.1
      · rw [hk, find?_eq_none hf'.1, find?_eq_none ho'.1]
      · simpa [find?, hk] using h key

end Isolation.Fields
