import Isolation.Proofs.Archive.Open
import Isolation.Proofs.Archive.Stored
import Isolation.Proofs.Fields
import Isolation.Proofs.FileSystem
import Isolation.Proofs.Symbol

/-!
# The entries that are read

An archive is asked for a path and finds what it lists under an entry path, which need not be spelled
in the same way. So a unit has a name of its own, the one that belongs to its entry path, and there
may be several requests that find it. A request that is spelled as names are finds the entry path
that it is translated to, and begins with the name of the unit.

## Main definitions

* `OpenArchive.entryAt` — the entry path that is found
* `OpenArchive.Spelled` — a request that is spelled as names are

## Main results

* `OpenArchive.entries_of_read` — what is read is listed under its entry path
* `OpenArchive.Spelled.startsWith` — strings that begin the name of the unit begin the request
-/

namespace Isolation

namespace StringMap

variable {α : Type} {map : StringMap α} {key other : String}

theorem contains_ofList {pairs : List (String × α)} {value : α} (h : (key, value) ∈ pairs) :
    (ofList pairs).contains key = true := by
  rw [ofList_eq_insertAll, contains, find?_insertAll, find?_empty, Option.or_none,
    Option.isSome_iff_ne_none]
  intro hnone
  have hmem : (key, value) ∈ pairs.reverse := List.mem_reverse.2 h
  generalize pairs.reverse = fields at hnone hmem
  induction fields with
  | nil => cases hmem
  | cons field fields ih =>
    rw [Fields.find?] at hnone
    split at hnone
    · cases hnone
    · next hne =>
      rcases List.mem_cons.1 hmem with rfl | hmem
      · exact hne rfl
      · exact ih hnone hmem

end StringMap

namespace OpenArchive

variable {files : FileSystem} {archive : OpenArchive} {path symbol : String} {data : List UInt8}

/-- The entry path that is found for a path. Slashes at either end do not count, and in a directory
empty segments do not count either. -/
def entryAt (archive : OpenArchive) (path : String) : String :=
  match archive with
  | directory _ => "/".intercalate (Path.names (trimPath path))
  | container _ _ _ => trimPath path

theorem descends_of_staysBelow (h : staysBelow path = true) : Path.Descends path := by
  intro component hcomponent
  have hnormal := List.all_eq_true.1 h component hcomponent
  cases component with
  | normal name => exact ⟨name, rfl⟩
  | root | current | parent => cases hnormal

/-! ### What is listed -/

/-- What is read from an archive is listed there, under its entry path. -/
theorem entries_of_read (opened : archive.Opened)
    (h : archive.read files path = .ok (some data)) :
    ∃ kinds, archive.entries files = .ok kinds ∧
      kinds.contains (archive.entryAt path) = true := by
  cases archive with
  | directory root =>
    simp only [read, Except.ok.injEq] at h
    split at h
    · next hbelow =>
      obtain ⟨tree, htree, hne, hdata⟩ := FileSystem.exists_of_fileData?_join opened.ne_empty
        (descends_of_staysBelow hbelow) h
      have hlisted : ("/".intercalate (Path.names (trimPath path)), EntryKind.file) ∈
          tree.listing.map fun item => (item.1, if item.2 then .directory else .file) := by
        refine List.mem_map.2 ⟨_, FileTree.mem_listing hdata hne, ?_⟩
        simp [FileTree.isDirectory]
      simp only [entries, htree]
      exact ⟨_, rfl, StringMap.contains_ofList hlisted⟩
    · cases h
  | container label content names =>
    simp only [read] at h
    split at h
    · cases h
    · next entry hentry =>
      obtain ⟨name, hname, -⟩ := Option.bind_eq_some_iff.1 hentry
      rw [opened.names_eq] at hname
      refine ⟨_, rfl, ?_⟩
      obtain ⟨hmem, hpath, hne, -⟩ := find?_nameTable_eq_some hname
      rw [StringMap.contains, find?_foldl_addName, isSome_lastMade?]
      exact ⟨name, hmem, isSome_makes?.2 (.inl ⟨hpath, hne⟩)⟩

end OpenArchive

/-! ### Requests that are spelled as names are -/

namespace Symbol

variable {symbol : String} {cs : List Char}

/-- A segment that is the name of something. -/
def IsWord (segment : List Char) : Prop := segment ≠ [] ∧ segment ≠ ['.'] ∧ segment ≠ ['.', '.']

/-- The path of a name without doubled delimiters is made of words, but for an empty segment in front
if the name begins with a delimiter. -/
theorem isWord_of_splitOn (plain : ∀ c ∈ cs, c ≠ '/') (single : ¬ [delimiter, delimiter] <:+: cs) :
    ∃ first rest, (cs.map toSeparator ++ suffix).splitOn '/' = first :: rest ∧
      (∀ segment ∈ rest, IsWord segment) ∧ (cs.head? = some delimiter ∨ IsWord first) := by
  induction cs with
  | nil =>
    refine ⟨suffix, [], by decide, nofun, .inr ?_⟩
    exact ⟨by decide, by decide, by decide⟩
  | cons c cs ih =>
    have hinfix : ¬ [delimiter, delimiter] <:+: cs := fun h =>
      single (h.trans (List.suffix_cons c cs).isInfix)
    obtain ⟨first, rest, hsplit, hrest, hfirst⟩ :=
      ih (fun c hc => plain c (List.mem_cons_of_mem _ hc)) hinfix
    rw [List.map_cons, List.cons_append, List.splitOn_cons_eq_if_modifyHead, hsplit]
    by_cases hc : c = delimiter
    · -- a word ends here, and the next one cannot be empty
      have hword : IsWord first := by
        obtain hhead | hword := hfirst
        · obtain ⟨tail, rfl⟩ : ∃ tail, cs = delimiter :: tail := by
            cases cs with
            | nil => cases hhead
            | cons d tail =>
              cases hhead
              exact ⟨tail, rfl⟩
          refine absurd ⟨[], tail, ?_⟩ single
          rw [hc]
          rfl
        · exact hword
      refine ⟨[], first :: rest, ?_, ?_, .inl ?_⟩
      · simp [toSeparator, hc]
      · intro segment hsegment
        rcases List.mem_cons.1 hsegment with rfl | hsegment
        · exact hword
        · exact hrest segment hsegment
      · rw [hc, List.head?_cons]
    · have hslash := plain c List.mem_cons_self
      refine ⟨c :: first, rest, ?_, hrest, .inr ?_⟩
      · simp [toSeparator, hc, hslash]
      · refine ⟨List.cons_ne_nil _ _, ?_, ?_⟩
        · intro h
          exact hc (List.cons.inj h).1
        · intro h
          exact hc (List.cons.inj h).1

end Symbol

namespace OpenArchive

variable {archive : OpenArchive} {path symbol : String}

/-- A request is spelled as names are: without separators and without a delimiter in front, and for a
directory also without doubled delimiters. -/
structure Spelled (archive : OpenArchive) (symbol : String) : Prop where
  plain : ∀ c ∈ symbol.toList, c ≠ '/' ∧ c ≠ '\\'
  front : symbol.toList.head? ≠ some Symbol.delimiter
  single : ∀ root, archive = directory root →
    ¬ [Symbol.delimiter, Symbol.delimiter] <:+: symbol.toList

/-- A path without slashes at its ends is not trimmed. -/
theorem trimPath_eq_self (front : path.toList.head? ≠ some '/')
    (back : path.toList.getLast? ≠ some '/') : trimPath path = path := by
  rw [trimPath, dropWhile_slash front, trimSlashes_eq_self back, String.ofList_toList]

theorem trimPath_toPath (plain : ∀ c ∈ symbol.toList, c ≠ '/' ∧ c ≠ '\\')
    (front : symbol.toList.head? ≠ some Symbol.delimiter) :
    trimPath (Symbol.toPath symbol) = Symbol.toPath symbol := by
  apply trimPath_eq_self
  · rw [Symbol.toList_toPath]
    cases hsymbol : symbol.toList with
    | nil => decide
    | cons c cs =>
      rw [hsymbol] at plain front
      have hc : c ≠ Symbol.delimiter := fun h => front (congrArg some h)
      simp [Symbol.toSeparator, hc, plain c List.mem_cons_self]
  · rw [Symbol.toList_toPath, List.getLast?_append]
    simp [Symbol.suffix]

theorem component?_of_isWord {segment : List Char} (h : Symbol.IsWord segment) :
    Path.component? (String.ofList segment) = some (.normal (String.ofList segment)) := by
  have hne : ∀ text : String, segment ≠ text.toList → String.ofList segment ≠ text := by
    intro text htext heq
    apply htext
    rw [← heq, String.toList_ofList]
  rw [Path.component?, if_neg (not_or.2 ⟨hne "" h.1, hne "." h.2.1⟩), if_neg (hne ".." h.2.2)]

/-- A request that is spelled as names are finds the entry path that it is translated to. -/
theorem Spelled.entryAt_eq (spelled : archive.Spelled symbol) :
    archive.entryAt (Symbol.toPath symbol) = Symbol.toPath symbol := by
  have htrim := trimPath_toPath spelled.plain spelled.front
  cases archive with
  | container label content names => exact htrim
  | directory root =>
    obtain ⟨first, rest, hsplit, hrest, hfirst⟩ := Symbol.isWord_of_splitOn
      (fun c hc => (spelled.plain c hc).1) (spelled.single root rfl)
    have hwords : ∀ segment ∈ Path.segments (Symbol.toPath symbol),
        Path.component? segment = some (.normal segment) := by
      intro segment hsegment
      rw [Path.segments, Symbol.toList_toPath, hsplit] at hsegment
      obtain ⟨word, hword, rfl⟩ := List.mem_map.1 hsegment
      apply component?_of_isWord
      rcases List.mem_cons.1 hword with rfl | hword
      · exact hfirst.resolve_left spelled.front
      · exact hrest word hword
    rw [entryAt, htrim, Path.names_eq_segments hwords, Path.intercalate_segments]

/-- The name of what such a request finds stands in front of the request. -/
theorem Spelled.startsWith (spelled : archive.Spelled symbol) {start : String}
    (h : Symbol.startsWith (Symbol.ofPath (archive.entryAt (Symbol.toPath symbol))) start = true) :
    Symbol.startsWith symbol start = true := by
  rw [spelled.entryAt_eq, Symbol.ofPath_toPath spelled.plain] at h
  apply Symbol.startsWith_of_prefix _ h
  rw [String.toList_ofList]
  exact Symbol.trim_prefix spelled.front

end OpenArchive

end Isolation
