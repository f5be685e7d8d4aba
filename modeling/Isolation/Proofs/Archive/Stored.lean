import Isolation.Archive.Open
import Isolation.Proofs.Fields

/-!
# Stored names

A container stores names in some order, and several of them may bear on one path: as names of the
file or the directory there, or as names of something below it. Its listing and its table of files
settle this in opposite ways. What a path is listed as is what the last name makes of it, and the
file that is read is the first one that was stored for it.

## Main definitions

* `OpenArchive.makes?` — what a stored name makes of a path
* `OpenArchive.storesFile` — a name that stores a file at a path
* `OpenArchive.lastMade?` — what the last of several names makes of a path

## Main results

* `OpenArchive.not_prefix_entryPath`, `OpenArchive.getLast?_entryPath` — entry paths are trimmed
* `OpenArchive.find?_foldl_addName` — the listing of a container
* `OpenArchive.find?_nameTable` — its table of files
-/

namespace Isolation

namespace OpenArchive

variable {path directory name : String} {stored : List String}

/-! ### Entry paths -/

theorem dropWhile_slash {cs : List Char} (front : cs.head? ≠ some '/') :
    cs.dropWhile (· = '/') = cs := by
  cases cs with
  | nil => rfl
  | cons c cs =>
    rw [List.dropWhile_cons_of_neg]
    simpa using front

theorem trimSlashes_eq_self {cs : List Char} (back : cs.getLast? ≠ some '/') :
    trimSlashes cs = cs := by
  have hback : cs.reverse.head? ≠ some '/' := by rwa [List.head?_reverse]
  rw [trimSlashes, dropWhile_slash hback, List.reverse_reverse]

theorem getLast?_trimSlashes (cs : List Char) : (trimSlashes cs).getLast? ≠ some '/' := by
  intro h
  rw [trimSlashes, List.getLast?_reverse] at h
  simpa [h] using List.head?_dropWhile_not (· = '/') cs.reverse

theorem dropFront_suffix (cs : List Char) : dropFront cs <:+ cs := by
  fun_induction dropFront cs with
  | case1 rest ih => exact ih.trans ⟨['.', '/'], rfl⟩
  | case2 rest ih => exact ih.trans ⟨['/'], rfl⟩
  | case3 cs => exact List.suffix_rfl

/-- Neither a slash nor a dot with a slash is left in front. -/
theorem not_prefix_dropFront (cs : List Char) :
    ¬ ['/'] <+: dropFront cs ∧ ¬ ['.', '/'] <+: dropFront cs := by
  fun_induction dropFront cs with
  | case1 rest ih => exact ih
  | case2 rest ih => exact ih
  | case3 cs hdot hslash =>
    constructor
    · rintro ⟨rest, rfl⟩
      exact hslash rest rfl
    · rintro ⟨rest, rfl⟩
      exact hdot rest rfl

theorem not_prefix_entryPath :
    ¬ ['/'] <+: (entryPath name).toList ∧ ¬ ['.', '/'] <+: (entryPath name).toList := by
  rw [entryPath, String.toList_ofList]
  exact not_prefix_dropFront _

theorem head?_entryPath : (entryPath name).toList.head? ≠ some '/' := by
  intro h
  obtain ⟨rest, hrest⟩ := List.head?_eq_some_iff.1 h
  exact not_prefix_entryPath.1 ⟨rest, hrest.symm⟩

theorem getLast?_entryPath : (entryPath name).toList.getLast? ≠ some '/' := by
  intro h
  rw [entryPath, String.toList_ofList] at h
  -- what is left in front of the end is the end of the whole
  obtain ⟨front, hfront⟩ := dropFront_suffix (trimSlashes name.toList)
  apply getLast?_trimSlashes name.toList
  rw [← hfront, List.getLast?_append, h, Option.some_or]

/-- A name that does not end in a slash ends in its entry path. -/
theorem entryPath_suffix (h : endsWithSlash name = false) :
    (entryPath name).toList <:+ name.toList := by
  have hback : name.toList.getLast? ≠ some '/' := by simpa [endsWithSlash] using h
  rw [entryPath, String.toList_ofList, trimSlashes_eq_self hback]
  exact dropFront_suffix _

/-! ### What names make of paths -/

/-- Whether a path leads through a directory to something below it. -/
def liesBelow (directory path : String) : Bool :=
  (directory.toList ++ ['/']).isPrefixOf path.toList

theorem liesBelow_iff :
    liesBelow directory path = true ↔ ∃ rest : String, path = directory ++ "/" ++ rest := by
  rw [liesBelow, List.isPrefixOf_iff_prefix]
  constructor
  · rintro ⟨rest, hrest⟩
    refine ⟨String.ofList rest, String.toList_injective ?_⟩
    simpa using hrest.symm
  · rintro ⟨rest, rfl⟩
    exact ⟨rest.toList, by simp⟩

/-- What a stored name makes of a path: a file or a directory if it is stored for it, and a directory
if it is stored for something below it. -/
def makes? (path name : String) : Option EntryKind :=
  if entryPath name = path ∧ path ≠ "" then some (if endsWithSlash name then .directory else .file)
  else if liesBelow path (entryPath name) then some .directory
  else none

/-- Whether a name stores a file at a path. -/
def storesFile (path name : String) : Bool :=
  entryPath name = path && path ≠ "" && !endsWithSlash name

/-- What the last of several stored names that bear on a path makes of it. -/
def lastMade? (stored : List String) (path : String) : Option EntryKind :=
  stored.reverse.findSome? (makes? path)

theorem storesFile_iff :
    storesFile path name = true ↔ entryPath name = path ∧ path ≠ "" ∧ endsWithSlash name = false := by
  simp [storesFile, and_assoc]

/-- Only names of files make a file of a path. -/
theorem makes?_eq_file : makes? path name = some .file ↔ storesFile path name = true := by
  rw [makes?, storesFile_iff]
  split
  · next h => simp [h.1, h.2]
  · next h =>
    split
    · simp only [Option.some.injEq, reduceCtorEq, false_iff]
      exact fun hfile => h ⟨hfile.1, hfile.2.1⟩
    · simp only [reduceCtorEq, false_iff]
      exact fun hfile => h ⟨hfile.1, hfile.2.1⟩

/-- A name bears on its own path and on those of the directories that it leads through. -/
theorem isSome_makes? : (makes? path name).isSome = true ↔
    (entryPath name = path ∧ path ≠ "") ∨ liesBelow path (entryPath name) = true := by
  rw [makes?]
  split
  · next h => simp [h.1, h.2]
  · next h => simp [h]

/-! ### The listing -/

/-- The parts of a path before its slashes. -/
theorem mem_parents {parent path : List Char} :
    parent ∈ parents path ↔ parent ++ ['/'] <+: path := by
  rw [parents, List.mem_map]
  simp only [List.mem_reverse, List.mem_filter, List.mem_range, decide_eq_true_eq]
  constructor
  · rintro ⟨i, ⟨hlt, hslash⟩, rfl⟩
    refine ⟨path.drop (i + 1), ?_⟩
    obtain ⟨_, hget⟩ := List.getElem?_eq_some_iff.1 hslash
    rw [List.append_assoc, List.singleton_append, ← hget, List.getElem_cons_drop,
      List.take_append_drop]
  · rintro ⟨rest, rfl⟩
    exact ⟨parent.length, ⟨by simp, by simp⟩, by simp⟩

/-- Setting several paths to directories. -/
theorem find?_foldl_insert_directory (parents : List (List Char)) (kinds : StringMap EntryKind) :
    (parents.foldl (fun kinds parent => kinds.insert (String.ofList parent) .directory)
      kinds).find? path = if path.toList ∈ parents then some .directory else kinds.find? path := by
  induction parents generalizing kinds with
  | nil => simp
  | cons parent parents ih =>
    have heq : path = String.ofList parent ↔ path.toList = parent := by
      rw [← String.toList_inj, String.toList_ofList]
    rw [List.foldl_cons, ih, StringMap.find?_insert]
    by_cases hlater : path.toList ∈ parents
    · simp [hlater]
    · simp [hlater, heq]

/-- A stored name settles the paths that it bears on, and leaves the others. -/
theorem find?_addName (kinds : StringMap EntryKind) :
    (addName kinds name).find? path = (makes? path name).or (kinds.find? path) := by
  simp only [addName]
  by_cases hempty : entryPath name = ""
  · -- such a name stands for nothing, and no path leads through nothing
    have hbelow : liesBelow path (entryPath name) = false := by
      simp [liesBelow, hempty]
    have hself : ¬ (entryPath name = path ∧ path ≠ "") := by
      rintro ⟨rfl, hne⟩
      exact hne hempty
    rw [if_pos hempty, makes?, if_neg hself, hbelow]
    simp
  · have hparents : path.toList ∈ parents (entryPath name).toList ↔
        liesBelow path (entryPath name) = true := by
      rw [mem_parents, liesBelow, List.isPrefixOf_iff_prefix]
    rw [if_neg hempty, find?_foldl_insert_directory, StringMap.find?_insert, makes?]
    by_cases hself : entryPath name = path
    · -- a path does not lead through itself
      have hnot : path.toList ∉ parents (entryPath name).toList := by
        rw [mem_parents, hself]
        intro h
        have hlength := h.length_le
        rw [List.length_append, List.length_singleton] at hlength
        omega
      have hne : path ≠ "" := hself ▸ hempty
      simp [hself, hne, hself ▸ hnot]
    · have hother : path ≠ entryPath name := fun h => hself h.symm
      by_cases hbelow : liesBelow path (entryPath name) = true
      · simp [hself, hparents, hbelow]
      · simp [hself, hparents, hbelow, hother]

/-- A path is listed as what the last name makes of it that bears on it. -/
theorem find?_foldl_addName (stored : List String) (path : String) :
    (stored.foldl addName ∅).find? path = lastMade? stored path := by
  have hfrom (kinds : StringMap EntryKind) :
      (stored.foldl addName kinds).find? path = (lastMade? stored path).or (kinds.find? path) := by
    induction stored generalizing kinds with
    | nil => simp [lastMade?]
    | cons first stored ih =>
      rw [List.foldl_cons, ih, find?_addName, ← Option.or_assoc]
      simp [lastMade?, List.findSome?_append]
  rw [hfrom, StringMap.find?_empty, Option.or_none]

/-- A path that some name bears on is listed. -/
theorem isSome_lastMade? :
    (lastMade? stored path).isSome = true ↔ ∃ name ∈ stored, (makes? path name).isSome = true := by
  simp [lastMade?]

theorem exists_of_lastMade? {kind : EntryKind} (h : lastMade? stored path = some kind) :
    ∃ name ∈ stored, makes? path name = some kind := by
  obtain ⟨name, hname, hmakes⟩ := List.exists_of_findSome?_eq_some h
  exact ⟨name, List.mem_reverse.1 hname, hmakes⟩

/-! ### The table of files -/

/-- Of the names that store a file at a path the first one is kept. -/
theorem find?_nameTable (stored : List String) (path : String) :
    (nameTable stored).find? path = stored.find? (storesFile path) := by
  have hfrom (table : StringMap String) :
      (stored.foldl (fun table name =>
        if endsWithSlash name ∨ entryPath name = "" ∨ table.contains (entryPath name) then table
        else table.insert (entryPath name) name) table).find? path =
        (table.find? path).or (stored.find? (storesFile path)) := by
    induction stored generalizing table with
    | nil => simp
    | cons first stored ih =>
      rw [List.foldl_cons, ih, List.find?_cons]
      by_cases hfile : storesFile path first = true
      · -- the name counts, unless there was one before it
        obtain ⟨rfl, hne, hslash⟩ := storesFile_iff.1 hfile
        cases hfound : table.find? (entryPath first) with
        | none =>
          simp [StringMap.contains, hfound, hfile, hne, hslash, StringMap.find?_insert]
        | some earlier => simp [StringMap.contains, hfound]
      · rw [Bool.not_eq_true] at hfile
        split
        · simp [hfile]
        · next hnew =>
          have hother : path ≠ entryPath first := by
            rintro rfl
            rw [not_or, not_or, Bool.not_eq_true] at hnew
            have hstores := storesFile_iff.2 ⟨rfl, hnew.2.1, hnew.1⟩
            rw [hstores] at hfile
            cases hfile
          rw [StringMap.find?_insert, if_neg hother, hfile]
  rw [nameTable, hfrom, StringMap.find?_empty, Option.none_or]

theorem isSome_find?_nameTable : ((nameTable stored).find? path).isSome = true ↔
    ∃ name ∈ stored, storesFile path name = true := by
  rw [find?_nameTable, List.find?_isSome]

/-- The names of files in a container stand under their entry paths. -/
theorem find?_nameTable_eq_some (h : (nameTable stored).find? path = some name) :
    name ∈ stored ∧ entryPath name = path ∧ path ≠ "" ∧ endsWithSlash name = false := by
  rw [find?_nameTable] at h
  exact ⟨List.mem_of_find?_eq_some h, storesFile_iff.1 (List.find?_some h)⟩

end OpenArchive

end Isolation
