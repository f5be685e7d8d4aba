/-!
# Something for each thread

A finite map from threads, with at most one entry for each.

## Main definitions

* `ThreadMap` — the map
* `ThreadMap.get?`, `ThreadMap.set`, `ThreadMap.erase`, `ThreadMap.size`

## Main results

* `ThreadMap.get?_set`, `ThreadMap.get?_erase` — an entry of one thread leaves those of others alone
-/

namespace Isolation

/-- Threads are numbered. -/
abbrev ThreadId := Nat

universe u

/-- A finite map from threads. -/
structure ThreadMap (α : Type u) where
  entries : List (ThreadId × α)
  distinct : (entries.map Prod.fst).Nodup

namespace ThreadMap

variable {α : Type u}

/-- The map without entries. -/
def empty : ThreadMap α := ⟨[], List.nodup_nil⟩

instance : EmptyCollection (ThreadMap α) := ⟨empty⟩

instance : Inhabited (ThreadMap α) := ⟨empty⟩

/-- The entries without that of a thread. -/
def without (thread : ThreadId) (entries : List (ThreadId × α)) : List (ThreadId × α) :=
  entries.filter fun entry => entry.1 ≠ thread

theorem nodup_without {thread : ThreadId} {entries : List (ThreadId × α)}
    (h : (entries.map Prod.fst).Nodup) : ((without thread entries).map Prod.fst).Nodup :=
  List.Pairwise.sublist (List.Sublist.map _ List.filter_sublist) h

theorem not_mem_without (thread : ThreadId) (entries : List (ThreadId × α)) :
    thread ∉ (without thread entries).map Prod.fst := by
  simp [without]

/-- The entry of a thread. -/
def get? (map : ThreadMap α) (thread : ThreadId) : Option α :=
  (map.entries.find? fun entry => entry.1 = thread).map Prod.snd

/-- Sets the entry of a thread. -/
def set (map : ThreadMap α) (thread : ThreadId) (value : α) : ThreadMap α :=
  ⟨(thread, value) :: without thread map.entries,
    List.nodup_cons.2 ⟨not_mem_without thread map.entries, nodup_without map.distinct⟩⟩

/-- Removes the entry of a thread. -/
def erase (map : ThreadMap α) (thread : ThreadId) : ThreadMap α :=
  ⟨without thread map.entries, nodup_without map.distinct⟩

/-- The number of threads with an entry. -/
def size (map : ThreadMap α) : Nat := map.entries.length

@[simp] theorem get?_empty (thread : ThreadId) : (∅ : ThreadMap α).get? thread = none := rfl

theorem find?_without (entries : List (ThreadId × α)) (thread other : ThreadId) :
    (without thread entries).find? (fun entry => entry.1 = other) =
      if other = thread then none else entries.find? fun entry => entry.1 = other := by
  induction entries with
  | nil => simp [without]
  | cons entry entries ih =>
    simp only [without] at ih
    by_cases h : entry.1 = thread <;> by_cases ho : entry.1 = other <;>
      by_cases hot : other = thread
      <;> simp_all [without]

theorem get?_erase (map : ThreadMap α) (thread other : ThreadId) :
    (map.erase thread).get? other = if other = thread then none else map.get? other := by
  simp only [get?, erase, find?_without]
  split <;> rfl

theorem get?_set (map : ThreadMap α) (thread other : ThreadId) (value : α) :
    (map.set thread value).get? other = if other = thread then some value else map.get? other := by
  simp only [get?, set, List.find?_cons, find?_without]
  by_cases h : other = thread
  · simp [h]
  · simp [h, show thread ≠ other from fun h' => h h'.symm]

end ThreadMap

end Isolation
