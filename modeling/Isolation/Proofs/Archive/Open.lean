import Isolation.Archive.Open
import Isolation.Proofs.Except

/-!
# Opened archives

An archive that was opened keeps its label. A directory is not read until it is asked for an entry,
while of a container all is known by then.

## Main definitions

* `OpenArchive.Opened` — an archive as it is when it was opened
* `OpenArchive.OpenedFrom` — an archive that is listed, as it is when it was opened

## Main results

* `Archive.toOpen_cases` — what opening an archive comes to
* `openAll_cons`, `openAll_append` — opening several archives
-/

namespace Isolation

variable {files : FileSystem}

/-- There are two kinds of opened archives. -/
theorem Archive.toOpen_cases {archive : Archive} {opened : OpenArchive}
    (h : archive.toOpen files = .ok opened) :
    (∃ path entries, archive = .directory path ∧ files.find? path = some (.directory entries) ∧
      opened = .directory path) ∨
    ∃ content, opened = .ofContainer archive.label content := by
  have hbytes {label : String} {bytes : List UInt8} (h : openBytes label bytes = .ok opened) :
      ∃ content, opened = .ofContainer label content := by
    rw [openBytes] at h
    split at h
    · next content _ =>
      cases h
      exact ⟨content, rfl⟩
    · cases h
  cases archive with
  | directory path =>
    rw [toOpen] at h
    split at h
    · cases h
    · cases h
    · next entries hfound =>
      cases h
      exact .inl ⟨path, entries, rfl, hfound, rfl⟩
  | zip path =>
    rw [toOpen] at h
    split at h
    · cases h
    · cases h
    · exact .inr (hbytes h)
  | memory label bytes => exact .inr (hbytes h)

theorem label_of_toOpen {archive : Archive} {opened : OpenArchive}
    (h : archive.toOpen files = .ok opened) : opened.label = archive.label := by
  obtain ⟨path, entries, rfl, -, rfl⟩ | ⟨content, rfl⟩ := Archive.toOpen_cases h
  · rfl
  · rfl

/-- Opening several archives opens the first and the others. -/
theorem openAll_cons {archive : Archive} {rest : List Archive} {opened : List OpenArchive}
    (h : openAll files (archive :: rest) = .ok opened) :
    ∃ first others, archive.toOpen files = .ok first ∧ openAll files rest = .ok others ∧
      opened = first :: others := by
  rw [openAll, List.mapM_cons] at h
  obtain ⟨first, hfirst, h⟩ := bind_eq_ok h
  obtain ⟨others, hrest, h⟩ := bind_eq_ok h
  exact ⟨first, others, hfirst, hrest, (Except.ok.inj h).symm⟩

theorem openAll_append {first second : List Archive} {opened opened' : List OpenArchive}
    (h : openAll files first = .ok opened)
    (h' : openAll files second = .ok opened') :
    openAll files (first ++ second) = .ok (opened ++ opened') := by
  rw [openAll, List.mapM_append]
  rw [openAll] at h h'
  rw [h, h']
  rfl

namespace OpenArchive

variable {archive : OpenArchive} {listed : List Archive}

/-- An archive as it is when it was opened, at whatever time. -/
def Opened (archive : OpenArchive) : Prop := ∃ files source, Archive.toOpen files source = .ok archive

/-- An archive as it is when it was opened, at whatever time, and one of those that are listed. -/
def OpenedFrom (listed : List Archive) (archive : OpenArchive) : Prop :=
  ∃ source ∈ listed, ∃ files, Archive.toOpen files source = .ok archive

/-- No directory lies at the empty path. -/
theorem Opened.ne_empty {root : String} (opened : (directory root).Opened) : root ≠ "" := by
  obtain ⟨files, source, h⟩ := opened
  rintro rfl
  obtain ⟨path, entries, -, hfound, heq⟩ | ⟨content, heq⟩ := Archive.toOpen_cases h
  · cases heq
    cases hfound
  · cases heq

theorem Opened.names_eq {label : String} {content : Zip.Container} {names : StringMap String}
    (opened : (container label content names).Opened) : names = nameTable content.names := by
  obtain ⟨files, source, h⟩ := opened
  obtain ⟨path, entries, -, -, heq⟩ | ⟨content, heq⟩ := Archive.toOpen_cases h
  · cases heq
  · cases heq
    rfl

theorem OpenedFrom.opened (from' : archive.OpenedFrom listed) : archive.Opened := by
  obtain ⟨source, -, files, h⟩ := from'
  exact ⟨files, source, h⟩

theorem OpenedFrom.of_subset {more : List Archive} (from' : archive.OpenedFrom listed)
    (subset : listed ⊆ more) : archive.OpenedFrom more := by
  obtain ⟨source, hsource, h⟩ := from'
  exact ⟨source, subset hsource, h⟩

theorem OpenedFrom.label_mem (from' : archive.OpenedFrom listed) :
    archive.label ∈ listed.map Archive.label := by
  obtain ⟨source, hsource, files, h⟩ := from'
  exact label_of_toOpen h ▸ List.mem_map_of_mem hsource

end OpenArchive

theorem openedFrom_of_openAll {archives : List Archive} {opened : List OpenArchive}
    (h : openAll files archives = .ok opened) : ∀ archive ∈ opened, archive.OpenedFrom archives := by
  intro archive harchive
  obtain ⟨source, hsource, hopen⟩ := (mem_of_mapM h).1 harchive
  exact ⟨source, hsource, files, hopen⟩

/-! ### Searching archives -/

/-- What is found was read from one of the archives. -/
theorem exists_of_findUnit {archives : List OpenArchive} {symbol : String} {located : Located}
    (h : findUnit files archives symbol = .ok (some located)) :
    ∃ archive ∈ archives, archive.label = located.archive ∧
      archive.read files (Symbol.toPath symbol) = .ok (some located.bytes) := by
  induction archives with
  | nil => cases h
  | cons archive archives ih =>
    rw [findUnit] at h
    split at h
    · cases h
    · next hread =>
      cases h
      exact ⟨archive, List.mem_cons_self, rfl, hread⟩
    · obtain ⟨other, hother, hlocated⟩ := ih h
      exact ⟨other, List.mem_cons_of_mem archive hother, hlocated⟩

/-- It is found at the entry path of the request. -/
theorem path_of_findUnit {archives : List OpenArchive} {symbol : String} {located : Located}
    (h : findUnit files archives symbol = .ok (some located)) :
    located.path = Symbol.toPath symbol := by
  induction archives with
  | nil => cases h
  | cons archive archives ih =>
    rw [findUnit] at h
    split at h
    · cases h
    · cases h
      rfl
    · exact ih h

end Isolation
