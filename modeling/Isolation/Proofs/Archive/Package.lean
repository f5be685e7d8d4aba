import Isolation.Proofs.Archive.Scan

/-!
# Packages

A package is the name of a directory in which an archive lists a unit file. A unit file in a
directory whose name is not empty counts for a package that its own name begins with; one at the top
counts for none.

## Main definitions

* `ListsUnit` — a unit file in a directory that archives list
* `IsPackage` — a name of such a directory

## Main results

* `mem_scan_packages` — the packages that are reported
-/

namespace Isolation

variable {files : FileSystem} {archives : List Archive} {opened : List OpenArchive}
  {ignored : List String} {packages : StringSet} {name path directory stem : String}

/-- The directory of a path ends at its last slash. -/
theorem directoryOf?_eq_some : directoryOf? path = some directory ↔
    ∃ file : String, '/' ∉ file.toList ∧ path = directory ++ "/" ++ file := by
  rw [directoryOf?]
  constructor
  · intro h
    split at h
    · cases h
    · -- read from its end, the path is the file up to a first slash, and the directory behind it
      next c rest hrest =>
      obtain rfl := Option.some.inj h
      obtain rfl : c = '/' := by
        have hhead := List.head?_dropWhile_not (· ≠ '/') path.toList.reverse
        rw [hrest] at hhead
        simpa using hhead
      have hsplit : path.toList.reverse.takeWhile (· ≠ '/') ++ '/' :: rest =
          path.toList.reverse := by
        rw [← hrest, List.takeWhile_append_dropWhile]
      refine ⟨String.ofList (path.toList.reverse.takeWhile (· ≠ '/')).reverse, fun h => ?_,
        String.toList_injective ?_⟩
      · rw [String.toList_ofList, List.mem_reverse] at h
        simpa using List.mem_takeWhile_imp h
      · simpa using (congrArg List.reverse hsplit).symm
  · rintro ⟨file, hnone, rfl⟩
    have hdrop : (directory ++ "/" ++ file).toList.reverse.dropWhile (· ≠ '/') =
        '/' :: directory.toList.reverse := by
      have hlist : (directory ++ "/" ++ file).toList.reverse =
          file.toList.reverse ++ '/' :: directory.toList.reverse := by simp
      rw [hlist, List.dropWhile_append_of_pos]
      · rfl
      · intro c hc
        have hne : c ≠ '/' := fun h => hnone (h ▸ List.mem_reverse.1 hc)
        simpa using hne
    rw [hdrop]
    simp

/-- Of several archives one lists the unit file with a given name before its suffix in a
directory. -/
def ListsUnit (files : FileSystem) (opened : List OpenArchive) (directory stem : String) : Prop :=
  '/' ∉ stem.toList ∧ ∃ archive ∈ opened, archive.Lists files (Symbol.unitFile directory stem)

/-- A unit file behind a slash has its suffix there. -/
theorem exists_eq_unitFile (h : directoryOf? path = some directory)
    (unit : Symbol.isUnitFile path = true) :
    ∃ stem : String, '/' ∉ stem.toList ∧ path = Symbol.unitFile directory stem := by
  obtain ⟨file, hfile, rfl⟩ := directoryOf?_eq_some.1 h
  rw [Symbol.isUnitFile, Bool.and_eq_true, List.isSuffixOf_iff_suffix] at unit
  have hsuffix : Symbol.suffix <:+ directory.toList ++ '/' :: file.toList := by
    simpa using unit.2
  -- the suffix has no slash in it, so that it does not reach into the directory
  have hstem : Symbol.suffix <:+ file.toList := by
    obtain hmore | hless := List.suffix_or_suffix_of_suffix hsuffix (List.suffix_append _ _)
    · obtain hall | hmore := List.suffix_cons_iff.1 hmore
      · exact absurd (List.cons.inj hall).1 (by decide)
      · exact hmore
    · exact absurd (hless.subset List.mem_cons_self) (by decide)
  obtain ⟨stem, hstem⟩ := hstem
  refine ⟨String.ofList stem, fun h => hfile ?_, String.toList_injective ?_⟩
  · rw [← hstem]
    exact List.mem_append_left _ (by simpa using h)
  · simp [Symbol.toList_unitFile, ← hstem]

theorem directoryOf?_unitFile (h : '/' ∉ stem.toList) :
    directoryOf? (Symbol.unitFile directory stem) = some directory := by
  refine directoryOf?_eq_some.2 ⟨stem ++ ".unit", ?_, ?_⟩
  · simpa using h
  · rw [Symbol.unitFile, String.append_assoc]

/-- A package of archives: a name of a directory with a unit file that is not empty and begins with
nothing that is ignored. -/
structure IsPackage (files : FileSystem) (opened : List OpenArchive) (ignored : List String)
    (name : String) : Prop where
  ne_empty : name ≠ ""
  kept : Symbol.matchesAny name ignored = false
  listed : ∃ directory stem, ListsUnit files opened directory stem ∧ Symbol.ofPath directory = name

/-- The packages that are reported are those of the archives. -/
theorem mem_scan_packages (h : scan files archives ignored .packages = .ok packages)
    (opens : openAll files archives = .ok opened) :
    name ∈ packages ↔ IsPackage files opened ignored name := by
  obtain ⟨opened', opens', hnames⟩ := mem_scan h
  obtain rfl := Except.ok.inj (opens.symm.trans opens')
  rw [hnames]
  constructor
  · rintro ⟨archive, harchive, path, listed, hunit, hname, hne, hkept⟩
    obtain ⟨directory, hdirectory, rfl⟩ := Option.map_eq_some_iff.1 hname
    obtain ⟨stem, hstem, rfl⟩ := exists_eq_unitFile hdirectory hunit
    exact ⟨hne, hkept, directory, stem, ⟨hstem, archive, harchive, listed⟩, rfl⟩
  · rintro ⟨hne, hkept, directory, stem, ⟨hstem, archive, harchive, listed⟩, rfl⟩
    refine ⟨archive, harchive, _, listed, Symbol.isUnitFile_unitFile directory stem, ?_, hne, hkept⟩
    rw [ScanKind.name?, directoryOf?_unitFile hstem, Option.map_some]

/-- Which packages there are depends on which archives there are and on what is ignored, in whatever
order. -/
theorem isPackage_congr {others : List OpenArchive} {ignored' : List String}
    (archives : ∀ archive, archive ∈ others ↔ archive ∈ opened)
    (ignores : ∀ start, start ∈ ignored' ↔ start ∈ ignored) :
    IsPackage files others ignored' name ↔ IsPackage files opened ignored name := by
  have hmatches : Symbol.matchesAny name ignored' = Symbol.matchesAny name ignored :=
    Symbol.matchesAny_congr ignores
  have hlists (directory stem : String) :
      ListsUnit files others directory stem ↔ ListsUnit files opened directory stem := by
    simp only [ListsUnit, archives]
  constructor
  · rintro ⟨hne, hkept, directory, stem, listed, hname⟩
    exact ⟨hne, hmatches ▸ hkept, directory, stem, (hlists directory stem).1 listed, hname⟩
  · rintro ⟨hne, hkept, directory, stem, listed, hname⟩
    exact ⟨hne, hmatches.trans hkept, directory, stem, (hlists directory stem).2 listed, hname⟩

end Isolation
