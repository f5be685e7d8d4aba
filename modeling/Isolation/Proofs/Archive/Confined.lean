import Mathlib.Data.List.Induction
import Isolation.Proofs.Archive.Scan

/-!
# Archives keep below their roots

A directory is read below its root and nowhere else. Only paths of names are followed, which lead
down; a path that leads up, or that begins with a dot, finds nothing, wherever it would lead. Slashes
at the ends of a path are dropped before it is judged, which makes no refused path an accepted one.

A unit is searched for at the path of its name. There is one dot in such a path, in the suffix, so
that it is never refused.

## Main definitions

* `OpenArchive.Refused` — a path that leads up, or begins with a dot
* `OpenArchive.LiesBelow` — data of a file below a root
* `OpenArchive.Confines`, `SearchConfined` — answers that come from below the roots of directories

## Main results

* `OpenArchive.exists_segments_trimPath` — what trimming takes away are empty segments
* `OpenArchive.confines_read` — reading from a directory
* `reads_confined` — reading from archives, and searching for units in them
-/

namespace Isolation

namespace Path

variable {path segment : String}

theorem component?_eq_parent : component? segment = some .parent ↔ segment = ".." := by
  constructor
  · intro h
    rw [component?] at h
    split at h
    · cases h
    · split at h
      · assumption
      · cases h
  · rintro rfl
    decide

theorem component?_ne_current : component? segment ≠ some .current := by
  intro h
  rw [component?] at h
  split at h
  · cases h
  · split at h <;> cases h

/-- A path leads up by the segments that do. -/
theorem parent_mem_components : .parent ∈ components path ↔ ".." ∈ segments path := by
  cases hsegments : segments path with
  | nil => exact absurd hsegments (segments_ne_nil path)
  | cons first rest =>
    have hrest : .parent ∈ rest.filterMap component? ↔ ".." ∈ rest := by
      simp [List.mem_filterMap, component?_eq_parent]
    rw [components, hsegments]
    simp only [List.mem_append, List.mem_cons, hrest]
    by_cases hfirst : first = ".."
    · subst hfirst
      simp [isAbsolute_eq_false hsegments (by decide), component?]
    · have hfront : .parent ∉ (component? first).toList := by
        rw [Option.mem_toList]
        exact fun h => hfirst (component?_eq_parent.1 h)
      split
      · simp [Ne.symm hfirst]
      · split
        · simp [Ne.symm hfirst]
        · simp [hfront, Ne.symm hfirst]

/-- A path begins with a dot if its first segment is one. -/
theorem current_mem_components : .current ∈ components path ↔ (segments path).head? = some "." := by
  cases hsegments : segments path with
  | nil => exact absurd hsegments (segments_ne_nil path)
  | cons first rest =>
    have hrest : .current ∉ rest.filterMap component? := by
      simp [List.mem_filterMap, component?_ne_current]
    rw [components, hsegments]
    simp only [List.mem_append, hrest, or_false, List.head?_cons, Option.some.injEq]
    by_cases hfirst : first = "."
    · subst hfirst
      simp [isAbsolute_eq_false hsegments (by decide)]
    · have hfront : .current ∉ (component? first).toList := by
        rw [Option.mem_toList]
        exact component?_ne_current
      split
      · simp [hfirst]
      · simp [hfirst, hfront]

end Path

namespace OpenArchive

variable {files other : FileSystem} {root path symbol : String} {data : List UInt8}
  {archives : List OpenArchive}

/-! ### Trimming -/

/-- Slashes that are dropped in front are empty segments. -/
theorem exists_splitOn_dropWhile (cs : List Char) :
    ∃ n, cs.splitOn '/' = List.replicate n [] ++ (cs.dropWhile (· = '/')).splitOn '/' := by
  induction cs with
  | nil => exact ⟨0, rfl⟩
  | cons c cs ih =>
    by_cases hc : c = '/'
    · obtain ⟨n, hn⟩ := ih
      refine ⟨n + 1, ?_⟩
      rw [List.dropWhile_cons_of_pos (by simpa using hc), List.splitOn_cons_eq_if_modifyHead,
        if_pos (by simpa using hc), hn, List.replicate_succ, List.cons_append]
    · refine ⟨0, ?_⟩
      rw [List.dropWhile_cons_of_neg (by simpa using hc), List.replicate_zero, List.nil_append]

/-- So are slashes that are dropped at the end. -/
theorem exists_splitOn_trimSlashes (cs : List Char) :
    ∃ n, cs.splitOn '/' = (trimSlashes cs).splitOn '/' ++ List.replicate n [] := by
  induction cs using List.reverseRecOn with
  | nil => exact ⟨0, by simp [trimSlashes]⟩
  | append_singleton cs c ih =>
    by_cases hc : c = '/'
    · obtain ⟨n, hn⟩ := ih
      refine ⟨n + 1, ?_⟩
      have htrim : trimSlashes (cs ++ [c]) = trimSlashes cs := by
        simp [trimSlashes, hc]
      rw [htrim, hc, List.splitOn_append_cons_self, hn, List.replicate_succ', List.append_assoc]
      rfl
    · refine ⟨0, ?_⟩
      rw [trimSlashes_eq_self (by simpa using hc), List.replicate_zero, List.append_nil]

/-- What trimming takes away from a path are empty segments at its ends. -/
theorem exists_segments_trimPath (path : String) :
    ∃ m n, Path.segments path =
      List.replicate m "" ++ Path.segments (trimPath path) ++ List.replicate n "" := by
  obtain ⟨m, hm⟩ := exists_splitOn_dropWhile path.toList
  obtain ⟨n, hn⟩ := exists_splitOn_trimSlashes (path.toList.dropWhile (· = '/'))
  refine ⟨m, n, ?_⟩
  rw [Path.segments, Path.segments, hm, hn, trimPath, String.toList_ofList]
  simp

/-! ### Refused paths -/

/-- A path leads up or begins with a dot, as it stands or without the slashes at its ends. -/
def Refused (path : String) : Prop :=
  ∃ text ∈ [path, trimPath path],
    .parent ∈ Path.components text ∨ .current ∈ Path.components text

/-- A path is refused if it leads up or begins with a dot when it is trimmed. -/
theorem refused_iff : Refused path ↔
    .parent ∈ Path.components (trimPath path) ∨ .current ∈ Path.components (trimPath path) := by
  constructor
  · rintro ⟨text, htext, h⟩
    obtain rfl | htext := List.mem_cons.1 htext
    · obtain ⟨m, n, hsegments⟩ := exists_segments_trimPath text
      rw [Path.parent_mem_components, Path.current_mem_components] at h ⊢
      rw [hsegments] at h
      refine h.imp (fun hup => ?_) fun hdot => ?_
      · simpa using hup
      · -- a path with a slash in front begins with an empty segment, and not with a dot
        obtain ⟨first, rest, htrim⟩ :=
          List.exists_cons_of_ne_nil (Path.segments_ne_nil (trimPath text))
        cases m with
        | zero => simpa [htrim] using hdot
        | succ m => simp [List.replicate_succ] at hdot
    · obtain rfl := List.mem_singleton.1 htext
      exact h
  · intro h
    exact ⟨trimPath path, by simp, h⟩

theorem staysBelow_eq_false (refused : Refused path) : staysBelow (trimPath path) = false := by
  rw [← Bool.not_eq_true]
  intro hbelow
  have hdown := descends_of_staysBelow hbelow
  obtain h | h := refused_iff.1 refused
  · obtain ⟨name, hname⟩ := hdown _ h
    cases hname
  · obtain ⟨name, hname⟩ := hdown _ h
    cases hname

/-! ### Directories -/

/-- Data of a regular file below a root, which a path leads down to by names. -/
structure LiesBelow (files : FileSystem) (root path : String) (data : List UInt8) : Prop where
  descends : Path.Descends path
  file : ∃ entries, files.find? root = some (.directory entries) ∧
    (FileTree.directory entries).descend? (Path.names path) = some (.file data)
  joined : files.fileData? (Path.join root ("/".intercalate (Path.names path))) = some data

/-- Answers about a path come from below a root. They depend on nothing but what lies there, data is
that of a regular file there, and there is none for a path that is refused. -/
structure Confines (root path : String)
    (answer : FileSystem → Except ArchiveError (Option (List UInt8))) : Prop where
  alike : ∀ files other : FileSystem, files.find? root = other.find? root →
    answer files = answer other
  below : ∀ files data, answer files = .ok (some data) →
    LiesBelow files root (trimPath path) data
  refuses : Refused path → ∀ files, answer files = .ok none

/-- A file that is found below a path that leads down lies below it. -/
theorem liesBelow_of_fileData?_join (hroot : root ≠ "") (down : Path.Descends path)
    (h : files.fileData? (Path.join root path) = some data) : LiesBelow files root path data := by
  obtain ⟨tree, htree, hne, hfile⟩ := FileSystem.exists_of_fileData?_join hroot down h
  obtain ⟨entries, rfl⟩ := FileTree.exists_directory_of_descend? hfile hne
  refine ⟨down, ⟨entries, htree, hfile⟩, ?_⟩
  exact FileSystem.fileData?_join htree hne (fun name => Path.isName_of_mem_names) hfile

/-- Reading from a directory is confined to what lies below it. -/
theorem confines_read (hroot : root ≠ "") (path : String) :
    Confines root path fun files => (directory root).read files path := by
  refine ⟨fun files other same => ?_, fun files data h => ?_, fun refused files => ?_⟩
  · simp only [read, Except.ok.injEq]
    by_cases hbelow : staysBelow (trimPath path) = true
    · have hdown := descends_of_staysBelow hbelow
      rw [if_pos hbelow, if_pos hbelow, FileSystem.fileData?, FileSystem.fileData?,
        FileSystem.find?_join hroot hdown.relative hdown.not_mem_segments,
        FileSystem.find?_join hroot hdown.relative hdown.not_mem_segments, same]
    · rw [if_neg hbelow, if_neg hbelow]
  · simp only [read, Except.ok.injEq] at h
    split at h
    · next hbelow =>
      exact liesBelow_of_fileData?_join hroot (descends_of_staysBelow hbelow) h
    · cases h
  · simp only [read, staysBelow_eq_false refused, Bool.false_eq_true, if_false]

end OpenArchive

/-! ### Searching for units -/

namespace Symbol

/-- The only dot in the path of a name is that of the suffix. -/
theorem suffix_of_mem_splitOn {cs segment : List Char}
    (h : segment ∈ (cs.map toSeparator ++ suffix).splitOn '/') (hdot : '.' ∈ segment) :
    suffix <:+ segment := by
  induction cs generalizing segment with
  | nil =>
    have hsuffix : (([] : List Char).map toSeparator ++ suffix).splitOn '/' = [suffix] := by decide
    rw [hsuffix, List.mem_singleton] at h
    exact h ▸ List.suffix_rfl
  | cons c cs ih =>
    rw [List.map_cons, List.cons_append, List.splitOn_cons_eq_if_modifyHead] at h
    split at h
    · rcases List.mem_cons.1 h with rfl | h
      · exact absurd hdot List.not_mem_nil
      · exact ih h hdot
    · next hc =>
      cases hsplit : (cs.map toSeparator ++ suffix).splitOn '/' with
      | nil => exact absurd hsplit (List.splitOn_ne_nil '/' _)
      | cons first rest =>
        rw [hsplit] at h ih
        rcases List.mem_cons.1 h with rfl | h
        · -- the character in front is no dot, since those of the name became slashes
          have hne : '.' ≠ toSeparator c := by
            intro heq
            rw [toSeparator] at heq
            split at heq
            · exact absurd heq (by decide)
            · next hdelimiter => exact hdelimiter heq.symm
          have hfirst := (List.mem_cons.1 hdot).resolve_left hne
          exact (ih List.mem_cons_self hfirst).trans (List.suffix_cons _ _)
        · exact ih (List.mem_cons_of_mem first h) hdot

end Symbol

variable {files other : FileSystem} {archives : List OpenArchive} {symbol : String}

/-- The path of a name is never refused. -/
theorem OpenArchive.not_refused_toPath (symbol : String) : ¬ Refused (Symbol.toPath symbol) := by
  have hsegments : ∀ segment ∈ Path.segments (trimPath (Symbol.toPath symbol)),
      '.' ∈ segment.toList → 5 ≤ segment.toList.length := by
    intro segment hsegment hdot
    obtain ⟨m, n, htrim⟩ := exists_segments_trimPath (Symbol.toPath symbol)
    have hmem : segment ∈ Path.segments (Symbol.toPath symbol) := by
      rw [htrim]
      exact List.mem_append_left _ (List.mem_append_right _ hsegment)
    rw [Path.segments, Symbol.toList_toPath] at hmem
    obtain ⟨chars, hchars, rfl⟩ := List.mem_map.1 hmem
    rw [String.toList_ofList] at hdot ⊢
    exact (Symbol.suffix_of_mem_splitOn hchars hdot).length_le
  rw [refused_iff, Path.parent_mem_components, Path.current_mem_components]
  rintro (hup | hfirst)
  · exact absurd (hsegments ".." hup (by decide)) (by decide)
  · exact absurd (hsegments "." (List.mem_of_mem_head? hfirst) (by decide)) (by decide)

/-- Whether a unit is found depends on nothing but what the archives answer for its path. -/
theorem findUnit_congr (same : ∀ archive ∈ archives,
      archive.read files (Symbol.toPath symbol) = archive.read other (Symbol.toPath symbol)) :
    findUnit files archives symbol = findUnit other archives symbol := by
  induction archives with
  | nil => rfl
  | cons archive archives ih =>
    rw [findUnit, findUnit, same archive List.mem_cons_self,
      ih fun later hlater => same later (List.mem_cons_of_mem archive hlater)]

/-- Searching archives for a unit depends on nothing but what lies below the roots of directories.
What is found was read from one of the archives, and from a directory as a regular file that lies
below its root. The path that is asked for is never one that is refused. -/
structure SearchConfined (archives : List OpenArchive) (symbol : String) : Prop where
  alike : ∀ files other : FileSystem,
    (∀ root, .directory root ∈ archives → files.find? root = other.find? root) →
      findUnit files archives symbol = findUnit other archives symbol
  below : ∀ files located, findUnit files archives symbol = .ok (some located) →
    located.path = Symbol.toPath symbol ∧
      ∃ archive ∈ archives, archive.label = located.archive ∧
        archive.read files located.path = .ok (some located.bytes) ∧
        ∀ root, archive = .directory root →
          OpenArchive.LiesBelow files root (OpenArchive.trimPath located.path) located.bytes
  accepted : ¬ OpenArchive.Refused (Symbol.toPath symbol)

/-- Archives that were opened, at whatever times, are read below the roots of directories only, at
any path and in whatever files there are by then; and so are they searched for units of any name. -/
theorem reads_confined (opened : ∀ archive ∈ archives, archive.Opened) :
    (∀ root, .directory root ∈ archives → ∀ path, OpenArchive.Confines root path fun files =>
      (OpenArchive.directory root).read files path) ∧
      ∀ symbol, SearchConfined archives symbol := by
  have hread : ∀ root, .directory root ∈ archives → ∀ path, OpenArchive.Confines root path
      fun files => (OpenArchive.directory root).read files path := by
    intro root hroot path
    exact OpenArchive.confines_read (opened _ hroot).ne_empty path
  refine ⟨hread, fun symbol => ⟨fun files other same => ?_, fun files located h => ?_,
    OpenArchive.not_refused_toPath symbol⟩⟩
  · refine findUnit_congr fun archive harchive => ?_
    cases archive with
    | directory root => exact (hread root harchive _).alike files other (same root harchive)
    | container label content names => rfl
  · have hpath := path_of_findUnit h
    obtain ⟨archive, harchive, hlabel, hdata⟩ := exists_of_findUnit h
    rw [← hpath] at hdata
    refine ⟨hpath, archive, harchive, hlabel, hdata, ?_⟩
    rintro root rfl
    exact (hread root harchive _).below files _ hdata

/-- A unit file is read below its directory, and a path that climbs out of a package to get there is
refused, although it would lead to the same file. -/
theorem reads_confined_package :
    OpenArchive.LiesBelow dottedFiles "lib" "a/B.unit" [120] ∧
      (OpenArchive.directory "lib").read dottedFiles "a/../a/B.unit" = .ok none := by
  have opened : ∀ archive ∈ [OpenArchive.directory "lib"], archive.Opened := by
    simpa using ⟨dottedFiles, .directory "lib", rfl⟩
  obtain ⟨hread, -⟩ := reads_confined opened
  have htrim : OpenArchive.trimPath "a/B.unit" = "a/B.unit" := by decide +kernel
  constructor
  · rw [← htrim]
    refine (hread "lib" List.mem_cons_self "a/B.unit").below dottedFiles [120] ?_
    with_unfolding_all rfl
  · refine (hread "lib" List.mem_cons_self "a/../a/B.unit").refuses ?_ dottedFiles
    exact ⟨"a/../a/B.unit", List.mem_cons_self, .inl (by decide +kernel)⟩

end Isolation
