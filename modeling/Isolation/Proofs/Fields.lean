import Isolation.StringMap

/-!
# Setting fields one after the other

Fields that are in order already are not changed by setting them in turn, and nothing is set that
was not given. Of several values that are set under one key the last one is found in the end.

## Main definitions

* `StringMap.insertAll` — the map after several pairs are set in turn

## Main results

* `Fields.ofList_of_ordered`, `StringMap.ofList_toList`
* `Fields.mem_ofList`
* `StringMap.find?_insertAll` — the last value under a key counts
* `StringMap.override_ofList` — overriding by a map sets the pairs that it was made of
-/

namespace Isolation

namespace Fields

variable {α : Type} {fields pairs : List (String × α)} {entry : String × α}

theorem insert_of_lt {key : String} {value : α} (h : ∀ entry ∈ fields, entry.1 < key) :
    insert key value fields = fields ++ [(key, value)] := by
  induction fields with
  | nil => rfl
  | cons entry fields ih =>
    have hlt := h entry List.mem_cons_self
    rw [insert, if_neg (String.lt_asymm hlt), if_neg (String.ne_of_lt hlt).symm,
      ih fun other hother => h other (List.mem_cons_of_mem entry hother), List.cons_append]

theorem foldl_insert_of_ordered {done : List (String × α)} (h : Ordered (done ++ fields)) :
    fields.foldl (fun fields pair => insert pair.1 pair.2 fields) done = done ++ fields := by
  induction fields generalizing done with
  | nil => rw [List.foldl_nil, List.append_nil]
  | cons entry fields ih =>
    have hlt : ∀ other ∈ done, other.1 < entry.1 := fun other hother =>
      (List.pairwise_append.1 h).2.2 other hother entry List.mem_cons_self
    have hsplit : done ++ entry :: fields = (done ++ [entry]) ++ fields := by
      rw [List.append_assoc, List.singleton_append]
    rw [List.foldl_cons, insert_of_lt hlt, hsplit]
    exact ih (hsplit ▸ h)

/-- Fields that are in order already stay as they are. -/
theorem ofList_of_ordered (h : Ordered fields) : ofList fields = fields :=
  foldl_insert_of_ordered h

theorem mem_foldl_insert {done : List (String × α)}
    (h : entry ∈ pairs.foldl (fun fields pair => insert pair.1 pair.2 fields) done) :
    entry ∈ done ∨ entry ∈ pairs := by
  induction pairs generalizing done with
  | nil => exact .inl h
  | cons pair pairs ih =>
    rcases ih h with h | h
    · rcases mem_insert h with rfl | h
      · exact .inr List.mem_cons_self
      · exact .inl h
    · exact .inr (List.mem_cons_of_mem pair h)

/-- What is found in the end was among the given pairs. -/
theorem mem_ofList (h : entry ∈ ofList pairs) : entry ∈ pairs :=
  (mem_foldl_insert h).resolve_left List.not_mem_nil

theorem mem_of_find? {key : String} {value : α} (h : find? key fields = some value) :
    (key, value) ∈ fields := by
  induction fields with
  | nil => cases h
  | cons entry fields ih =>
    rw [find?] at h
    split at h
    · next heq =>
      cases h
      rw [heq]
      exact List.mem_cons_self
    · exact List.mem_cons_of_mem _ (ih h)

/-- Fields in order are found under their keys. -/
theorem find?_of_mem (ordered : Ordered fields) (h : entry ∈ fields) :
    find? entry.1 fields = some entry.2 := by
  induction fields with
  | nil => cases h
  | cons first fields ih =>
    obtain ⟨hfirst, hfields⟩ := List.pairwise_cons.1 ordered
    obtain rfl | h := List.mem_cons.1 h
    · simp [find?]
    · rw [find?, if_neg (String.ne_of_lt (hfirst entry h)).symm]
      exact ih hfields h

/-- Whether fields are in order depends on their keys only. -/
theorem ordered_iff_keys : Ordered fields ↔ (fields.map Prod.fst).Pairwise (· < ·) := by
  rw [Ordered, List.pairwise_map]

end Fields

namespace Fields

variable {α : Type} {key : String}

theorem find?_append (fields other : List (String × α)) :
    find? key (fields ++ other) = (find? key fields).or (find? key other) := by
  induction fields with
  | nil => simp
  | cons entry fields ih =>
    by_cases h : key = entry.1
    · simp [find?, h]
    · simp [find?, h, ih]

/-- Something is found under the keys that are there. -/
theorem isSome_find? {fields : List (String × α)} :
    (find? key fields).isSome = true ↔ key ∈ fields.map Prod.fst := by
  induction fields with
  | nil => simp
  | cons entry fields ih =>
    by_cases h : key = entry.1
    · simp [find?, h]
    · rw [find?, if_neg h, ih, List.map_cons, List.mem_cons, or_iff_right h]

/-- Of all values that are set under a key the last one is found. -/
theorem find?_foldl_insert (pairs done : List (String × α)) :
    find? key (pairs.foldl (fun fields pair => insert pair.1 pair.2 fields) done) =
      (find? key pairs.reverse).or (find? key done) := by
  induction pairs generalizing done with
  | nil => simp
  | cons pair pairs ih =>
    rw [List.foldl_cons, ih, List.reverse_cons, find?_append, find?_insert]
    by_cases h : key = pair.1
    · simp [find?, h]
    · simp [find?, h]

end Fields

namespace StringMap

variable {α : Type}

/-- A map is made again of its own pairs. -/
theorem ofList_toList (map : StringMap α) : ofList map.toList = map :=
  StringMap.ext (Fields.ofList_of_ordered map.ordered)

/-- The map after several pairs are set in turn. -/
def insertAll (map : StringMap α) (pairs : List (String × α)) : StringMap α :=
  pairs.foldl (fun map pair => map.insert pair.1 pair.2) map

theorem toList_insertAll (map : StringMap α) (pairs : List (String × α)) :
    (map.insertAll pairs).toList =
      pairs.foldl (fun fields pair => Fields.insert pair.1 pair.2 fields) map.toList := by
  induction pairs generalizing map with
  | nil => rfl
  | cons pair pairs ih => exact ih (map.insert pair.1 pair.2)

/-- The last value that is set under a key counts, else the one that was there. -/
theorem find?_insertAll (map : StringMap α) (pairs : List (String × α)) (key : String) :
    (map.insertAll pairs).find? key =
      (Fields.find? key pairs.reverse).or (map.find? key) := by
  rw [find?, toList_insertAll]
  exact Fields.find?_foldl_insert pairs map.toList

@[simp] theorem insertAll_nil (map : StringMap α) : map.insertAll [] = map := rfl

theorem insertAll_append (map : StringMap α) (pairs more : List (String × α)) :
    map.insertAll (pairs ++ more) = (map.insertAll pairs).insertAll more :=
  List.foldl_append

theorem ofList_eq_insertAll (pairs : List (String × α)) : ofList pairs = insertAll ∅ pairs :=
  StringMap.ext (toList_insertAll ∅ pairs).symm

theorem find?_override (map other : StringMap α) (key : String) :
    (map.override other).find? key = (other.find? key).or (map.find? key) := by
  have hother : Fields.find? key other.toList.reverse = other.find? key := by
    have h := find?_insertAll ∅ other.toList key
    rw [← ofList_eq_insertAll, ofList_toList, find?_empty, Option.or_none] at h
    exact h.symm
  rw [← hother]
  exact Fields.find?_foldl_insert other.toList map.toList

/-- Overriding by a map sets the pairs that it was made of. -/
theorem override_ofList (map : StringMap α) (pairs : List (String × α)) :
    map.override (ofList pairs) = map.insertAll pairs := by
  apply ext_find?
  intro key
  simp [find?_override, ofList_eq_insertAll, find?_insertAll]

end StringMap

namespace StringSet

variable {set other : StringSet} {member : String}

theorem mem_toList : member ∈ set.toList ↔ member ∈ set := by
  change member ∈ set.members.toList.map Prod.fst ↔
    (Fields.find? member set.members.toList).isSome = true
  induction set.members.toList with
  | nil => simp
  | cons first rest ih =>
    by_cases h : member = first.1
    · simp [Fields.find?, h]
    · simp only [List.map_cons, List.mem_cons, h, false_or, Fields.find?, if_false, ih]

theorem mem_foldl_insert {members : List String} :
    member ∈ members.foldl insert set ↔ member ∈ set ∨ member ∈ members := by
  induction members generalizing set with
  | nil => simp
  | cons first rest ih =>
    rw [List.foldl_cons, ih, mem_insert, List.mem_cons, or_assoc, or_left_comm]

theorem mem_union : member ∈ set.union other ↔ member ∈ set ∨ member ∈ other := by
  rw [union, mem_foldl_insert, mem_toList]

theorem mem_foldl_union {sets : List StringSet} :
    member ∈ sets.foldl union set ↔ member ∈ set ∨ ∃ other ∈ sets, member ∈ other := by
  induction sets generalizing set with
  | nil => simp
  | cons first sets ih =>
    rw [List.foldl_cons, ih, mem_union]
    simp [or_assoc]

end StringSet

end Isolation
