import Isolation.Fields

/-!
# Maps and sets with string keys

Both are listed in ascending order of their strings (by code points, which is also the byte order of
their encodings), so equal contents are equal values.

## Main definitions

* `StringMap` — a finite map from strings
* `StringSet` — a finite set of strings

## Main results

* `StringMap.ext_find?`, `StringSet.ext_mem` — extensionality
-/

namespace Isolation

universe u v

/-- A finite map from strings, as pairs in ascending order of the keys. -/
@[ext] structure StringMap (α : Type u) where
  toList : List (String × α)
  ordered : Fields.Ordered toList

namespace StringMap

variable {α : Type u} {β : Type v}

instance [DecidableEq α] : DecidableEq (StringMap α) := fun a b =>
  decidable_of_iff (a.toList = b.toList) ⟨StringMap.ext, fun h => h ▸ rfl⟩

instance [Repr α] : Repr (StringMap α) := ⟨fun map prec => reprPrec map.toList prec⟩

/-- The map without keys. -/
def empty : StringMap α := ⟨[], Fields.ordered_nil⟩

instance : EmptyCollection (StringMap α) := ⟨empty⟩

instance : Inhabited (StringMap α) := ⟨empty⟩

/-- Sets a key, replacing the value it had. -/
def insert (map : StringMap α) (key : String) (value : α) : StringMap α :=
  ⟨Fields.insert key value map.toList, Fields.ordered_insert map.ordered⟩

/-- The value under a key. -/
def find? (map : StringMap α) (key : String) : Option α :=
  Fields.find? key map.toList

/-- Whether a key is set. -/
def contains (map : StringMap α) (key : String) : Bool :=
  (map.find? key).isSome

/-- Removes a key. -/
def erase (map : StringMap α) (key : String) : StringMap α :=
  ⟨Fields.erase key map.toList, Fields.ordered_erase map.ordered⟩

/-- Sets every pair in turn, so that of two pairs with one key the later counts. -/
def ofList (pairs : List (String × α)) : StringMap α :=
  ⟨Fields.ofList pairs, Fields.ordered_ofList pairs⟩

/-- The first map overridden by the second. -/
def override (map other : StringMap α) : StringMap α :=
  ⟨other.toList.foldl (fun fields pair => Fields.insert pair.1 pair.2 fields) map.toList,
    Fields.ordered_foldl_insert map.ordered⟩

/-- The number of keys. -/
def size (map : StringMap α) : Nat := map.toList.length

/-- The keys in ascending order. -/
def keys (map : StringMap α) : List String := map.toList.map Prod.fst

@[simp] theorem find?_empty (key : String) : (∅ : StringMap α).find? key = none := rfl

theorem find?_insert (map : StringMap α) (key other : String) (value : α) :
    (map.insert key value).find? other = if other = key then some value else map.find? other :=
  Fields.find?_insert key other value map.toList

theorem ext_find? {map other : StringMap α} (h : ∀ key, map.find? key = other.find? key) :
    map = other :=
  StringMap.ext (Fields.ext_find? map.ordered other.ordered h)

end StringMap

/-- A finite set of strings, in ascending order. -/
structure StringSet where
  members : StringMap Unit
  deriving DecidableEq

namespace StringSet

/-- The set without members. -/
def empty : StringSet := ⟨∅⟩

instance : EmptyCollection StringSet := ⟨empty⟩

instance : Inhabited StringSet := ⟨empty⟩

/-- The members in ascending order. -/
def toList (set : StringSet) : List String := set.members.keys

/-- Adds a member. -/
def insert (set : StringSet) (member : String) : StringSet := ⟨set.members.insert member ()⟩

/-- The set of the strings in a list. -/
def ofList (members : List String) : StringSet := members.foldl insert ∅

/-- The members of either set. -/
def union (set other : StringSet) : StringSet := other.toList.foldl insert set

/-- Whether a string is a member. -/
def contains (set : StringSet) (member : String) : Bool := set.members.contains member

instance : Membership String StringSet := ⟨fun set member => set.contains member = true⟩

instance (set : StringSet) (member : String) : Decidable (member ∈ set) :=
  inferInstanceAs (Decidable (set.contains member = true))

@[simp] theorem not_mem_empty (member : String) : member ∉ (∅ : StringSet) := Bool.false_ne_true

theorem mem_insert {set : StringSet} {member other : String} :
    other ∈ set.insert member ↔ other = member ∨ other ∈ set := by
  change ((set.members.insert member ()).find? other).isSome = true ↔
    other = member ∨ (set.members.find? other).isSome = true
  rw [StringMap.find?_insert]
  by_cases h : other = member <;> simp [h]

theorem mem_ofList {members : List String} {member : String} :
    member ∈ ofList members ↔ member ∈ members := by
  have h : ∀ (set : StringSet) (members : List String),
      member ∈ members.foldl insert set ↔ member ∈ set ∨ member ∈ members := by
    intro set members
    induction members generalizing set with
    | nil => simp
    | cons first rest ih =>
      rw [List.foldl_cons, ih, mem_insert, List.mem_cons]
      constructor
      · rintro ((h | h) | h)
        · exact .inr (.inl h)
        · exact .inl h
        · exact .inr (.inr h)
      · rintro (h | h | h)
        · exact .inl (.inr h)
        · exact .inl (.inl h)
        · exact .inr h
  simpa [ofList] using h ∅ members

theorem ext_mem {set other : StringSet} (h : ∀ member, member ∈ set ↔ member ∈ other) :
    set = other := by
  cases set with
  | mk members =>
    cases other with
    | mk members' =>
      congr 1
      refine StringMap.ext_find? fun key => ?_
      have hkey : (members.find? key).isSome = true ↔ (members'.find? key).isSome = true := h key
      cases hm : members.find? key <;> cases hm' : members'.find? key <;> simp_all

end StringSet

end Isolation
