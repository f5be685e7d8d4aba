import Isolation.Proofs.Archive.Listing

/-!
# What is listed and what is read

A unit file that is listed can be read. The other way around this holds in a directory, where there
is one tree to list and to read from. A container lists a path as what the last stored name makes of
it, but reads the first file that is stored for it; so a file is read without being listed if a
later name makes a directory of its path.

## Main definitions

* `OpenArchive.Lists` — a file that an archive lists
* `OpenArchive.InListedForm` — a path that is spelled as listed ones are
* `OpenArchive.Overlays` — a file that a container reads but lists as a directory

## Main results

* `OpenArchive.lists_directory_iff` — directories list what they read
* `OpenArchive.read_container_ne_none_iff` — containers read what is stored
* `OpenArchive.Lists.read_ne_none` — a unit file that is listed is read
* `OpenArchive.lists_iff_read_iff` — when listing and reading agree
* `OpenArchive.read_not_lists` — a container that reads a file which it does not list
-/

namespace Isolation

namespace OpenArchive

variable {files : FileSystem} {source : Archive} {archive : OpenArchive} {root label path name : String}
  {content : Zip.Container} {names : StringMap String}

/-- An archive lists a file under an entry path. -/
def Lists (files : FileSystem) (opened : OpenArchive) (path : String) : Prop :=
  ∃ kinds, opened.entries files = .ok kinds ∧ kinds.find? path = some .file

/-- A path that is spelled as listed ones are: without slashes at its ends, and for a directory
without empty segments and dots. -/
structure InListedForm (archive : OpenArchive) (path : String) : Prop where
  front : path.toList.head? ≠ some '/'
  back : path.toList.getLast? ≠ some '/'
  plain : ∀ root, archive = directory root →
    ∀ segment ∈ Path.segments path, segment ≠ "" ∧ segment ≠ "."

/-- A file is stored in a container, but the last name that bears on its path makes a directory of
it. -/
def Overlays (archive : OpenArchive) (path : String) : Prop :=
  match archive with
  | directory _ => False
  | container _ content _ => (∃ name ∈ content.names, storesFile path name = true) ∧
      lastMade? content.names path = some .directory

/-! ### Directories -/

/-- A file that a directory lists lies below it by the names in its path. -/
theorem exists_of_lists_directory (wellFormed : files.WellFormed)
    (listed : (directory root).Lists files path) :
    ∃ entries names data, files.find? root = some (.directory entries) ∧ names ≠ [] ∧
      (∀ name ∈ names, Path.IsName name) ∧
      (FileTree.directory entries).descend? names = some (.file data) ∧
      path = "/".intercalate names := by
  obtain ⟨kinds, hkinds, hfile⟩ := listed
  obtain ⟨tree, htree, hlisted⟩ := find?_entries_directory wellFormed hkinds
  obtain ⟨names, child, hne, hnames, hchild, hpath, hkind⟩ := (hlisted path .file).1 hfile
  cases child with
  | directory below => simp [EntryKind.ofTree, FileTree.isDirectory] at hkind
  | file data =>
    obtain ⟨entries, rfl⟩ := FileTree.exists_directory_of_descend? hchild hne
    exact ⟨entries, names, data, htree, hne, hnames, hchild, hpath⟩

/-- A path that is made of names is spelled as listed ones are. -/
theorem inListedForm_of_isName (h : ∀ segment ∈ Path.segments path, Path.IsName segment) :
    archive.InListedForm path := by
  obtain ⟨-, hslash, -, hback⟩ := Path.relative_of_isName h
  refine ⟨fun hhead => ?_, fun hlast => ?_, fun _ _ segment hsegment => ⟨?_, ?_⟩⟩
  · obtain ⟨rest, hrest⟩ := List.head?_eq_some_iff.1 hhead
    exact hslash ⟨rest, hrest.symm⟩
  · obtain ⟨front, hfront⟩ := List.getLast?_eq_some_iff.1 hlast
    exact hback ⟨front, hfront.symm⟩
  · rintro rfl
    exact absurd (h "" hsegment) (by decide)
  · rintro rfl
    exact absurd (h "." hsegment) (by decide)

/-- In a path that stays below and has neither empty segments nor dots all segments are names. -/
theorem isName_of_staysBelow (below : staysBelow path = true)
    (plain : ∀ segment ∈ Path.segments path, segment ≠ "" ∧ segment ≠ ".") :
    ∀ segment ∈ Path.segments path, Path.IsName segment := by
  intro segment hsegment
  obtain ⟨hempty, hdot⟩ := plain segment hsegment
  refine ⟨Path.not_mem_of_mem_segments hsegment, ?_⟩
  have hup : segment ≠ ".." := by
    rintro rfl
    exact (descends_of_staysBelow below).not_mem_segments hsegment
  rw [Path.component?, if_neg (not_or.2 ⟨hempty, hdot⟩), if_neg hup]

/-- A directory lists the files that it reads, under the paths that are spelled as listed ones are. -/
theorem lists_directory_iff (wellFormed : files.WellFormed) (hroot : root ≠ "") :
    (directory root).Lists files path ↔
      (directory root).InListedForm path ∧ (directory root).read files path ≠ .ok none := by
  constructor
  · intro listed
    obtain ⟨entries, names, data, hbase, hne, hnames, hdata, rfl⟩ :=
      exists_of_lists_directory wellFormed listed
    have hsegments := Path.segments_intercalate hnames hne
    have hform : (directory root).InListedForm ("/".intercalate names) := by
      apply inListedForm_of_isName
      rwa [hsegments]
    have hbelow : staysBelow ("/".intercalate names) = true := by
      simp [staysBelow, Path.components_intercalate hnames hne]
    refine ⟨hform, ?_⟩
    simp [read, trimPath_eq_self hform.front hform.back, hbelow,
      FileSystem.fileData?_join hbase hne hnames hdata]
  · rintro ⟨⟨hfront, hback, hplain⟩, hread⟩
    simp only [read, trimPath_eq_self hfront hback] at hread
    split at hread
    · next hbelow =>
      obtain ⟨data, hdata⟩ : ∃ data, files.fileData? (Path.join root path) = some data :=
        Option.ne_none_iff_exists'.1 fun hnone => hread (by rw [hnone])
      obtain ⟨tree, htree, hne, hfile⟩ :=
        FileSystem.exists_of_fileData?_join hroot (descends_of_staysBelow hbelow) hdata
      have hnames := isName_of_staysBelow hbelow (hplain root rfl)
      have hsegments : Path.names path = Path.segments path :=
        Path.names_eq_segments fun segment hsegment => (hnames segment hsegment).normal
      rw [hsegments] at hfile
      obtain ⟨kinds, hkinds⟩ : ∃ kinds, (directory root).entries files = .ok kinds := by
        simp only [entries, htree]
        exact ⟨_, rfl⟩
      refine ⟨kinds, hkinds, ?_⟩
      obtain ⟨tree', htree', hlisted⟩ := find?_entries_directory wellFormed hkinds
      obtain rfl := Option.some.inj (htree.symm.trans htree')
      rw [hlisted]
      exact ⟨Path.segments path, .file data, Path.segments_ne_nil path, hnames, hfile,
        (Path.intercalate_segments path).symm, rfl⟩
    · exact absurd rfl hread

/-! ### Containers -/

theorem lists_container_iff : (container label content names).Lists files path ↔
    lastMade? content.names path = some .file := by
  rw [← find?_foldl_addName]
  constructor
  · rintro ⟨kinds, hkinds, hfile⟩
    obtain rfl := Except.ok.inj hkinds
    exact hfile
  · intro hfile
    exact ⟨_, rfl, hfile⟩

theorem getLast?_of_suffix {cs : List Char} (h : Symbol.suffix <:+ cs) :
    cs.getLast? = some 't' := by
  obtain ⟨stem, rfl⟩ := h
  simp [Symbol.suffix]

/-- Only of a directory there is no data in a container. -/
theorem container_read_ne_none {entry : Zip.Entry} (h : entry.isDirectory = false) :
    content.read entry ≠ .ok none := by
  rw [Zip.Container.read, h]
  split
  · nofun
  · split
    · nofun
    · simp only [Bool.false_eq_true, if_false]
      split
      · nofun
      · split <;> nofun

theorem exists_of_mem_names (h : name ∈ content.names) :
    ∃ entry, content.find? name = some entry ∧ entry.name = name := by
  obtain ⟨entry, hentry, rfl⟩ := List.mem_map.1 h
  obtain ⟨found, hfound⟩ : ∃ found, content.find? entry.name = some found :=
    Option.isSome_iff_exists.1 (List.find?_isSome.2 ⟨entry, hentry, by simp⟩)
  exact ⟨found, hfound, by simpa using List.find?_some hfound⟩

/-- A container reads the unit files that are stored in it, or what is kept of them cannot be read. -/
theorem read_container_ne_none_iff (suffix : Symbol.suffix <:+ path.toList)
    (trimmed : trimPath path = path) :
    (ofContainer label content).read files path ≠ .ok none ↔
      ∃ name ∈ content.names, storesFile path name = true := by
  rw [← isSome_find?_nameTable]
  simp only [ofContainer, read, trimmed]
  cases hraw : (nameTable content.names).find? path with
  | none => simp
  | some raw =>
    obtain ⟨hmem, hpath, -, hfront⟩ := find?_nameTable_eq_some hraw
    obtain ⟨entry, hentry, rfl⟩ := exists_of_mem_names hmem
    -- its name ends as the path does, so it is not that of a directory
    have hlast : entry.name.toList.getLast? = some 't' :=
      getLast?_of_suffix (suffix.trans (hpath ▸ entryPath_suffix hfront))
    have hread : content.read entry ≠ .ok none :=
      container_read_ne_none (by simp [Zip.Entry.isDirectory, hlast])
    simp only [Option.bind_some, hentry, Option.isSome_some, iff_true]
    split
    · next data hdata =>
      intro hnone
      exact hread (hdata.trans (congrArg _ (Except.ok.inj hnone)))
    · simp
    · simp

/-! ### Listing and reading -/

theorem InListedForm.trimPath_eq (form : archive.InListedForm path) : trimPath path = path :=
  trimPath_eq_self form.front form.back

/-- The path that a file is stored for is spelled as listed paths are. -/
theorem inListedForm_of_storesFile (h : storesFile path name = true) :
    (container label content names).InListedForm path := by
  obtain ⟨rfl, -⟩ := storesFile_iff.1 h
  exact ⟨head?_entryPath, getLast?_entryPath, nofun⟩

/-- Of the paths that are spelled as listed ones are, a container reads those of the unit files that
are stored in it. -/
theorem readable_container_iff (suffix : Symbol.suffix <:+ path.toList) :
    (ofContainer label content).InListedForm path ∧
        (ofContainer label content).read files path ≠ .ok none ↔
      ∃ name ∈ content.names, storesFile path name = true := by
  constructor
  · rintro ⟨form, hread⟩
    exact (read_container_ne_none_iff suffix form.trimPath_eq).1 hread
  · rintro ⟨name, hname, hstores⟩
    have form : (ofContainer label content).InListedForm path := inListedForm_of_storesFile hstores
    exact ⟨form, (read_container_ne_none_iff suffix form.trimPath_eq).2 ⟨name, hname, hstores⟩⟩

theorem exists_storesFile_of_lastMade? {stored : List String}
    (h : lastMade? stored path = some .file) : ∃ name ∈ stored, storesFile path name = true := by
  obtain ⟨name, hname, hmakes⟩ := exists_of_lastMade? h
  exact ⟨name, hname, makes?_eq_file.1 hmakes⟩

/-- What is listed is spelled as listed paths are. -/
theorem Lists.inListedForm (wellFormed : files.WellFormed) (opened : archive.Opened)
    (listed : archive.Lists files path) : archive.InListedForm path := by
  cases archive with
  | directory root => exact ((lists_directory_iff wellFormed opened.ne_empty).1 listed).1
  | container label content names =>
    obtain ⟨name, -, hname⟩ := exists_storesFile_of_lastMade? (lists_container_iff.1 listed)
    exact inListedForm_of_storesFile hname

/-- What is listed has no slash in front. -/
theorem Lists.head? (wellFormed : files.WellFormed) (h : source.toOpen files = .ok archive)
    (listed : archive.Lists files path) : path.toList.head? ≠ some '/' :=
  (listed.inListedForm wellFormed ⟨files, source, h⟩).front

/-- A unit file that an archive lists is spelled as listed paths are and is read. The other way
around this holds if and only if the file is not overlaid, which it never is in a directory of regular
files and directories. -/
theorem lists_iff_read_iff (opened : archive.Opened) (wellFormed : files.WellFormed)
    (unit : Symbol.isUnitFile path = true) :
    (archive.Lists files path →
        archive.InListedForm path ∧ archive.read files path ≠ .ok none) ∧
      ((archive.Lists files path ↔
          archive.InListedForm path ∧ archive.read files path ≠ .ok none) ↔
        ¬ archive.Overlays path) := by
  cases archive with
  | directory root =>
    have hiff : (directory root).Lists files path ↔ _ := lists_directory_iff wellFormed opened.ne_empty
    exact ⟨hiff.1, fun _ => id, fun _ => hiff⟩
  | container label content names =>
    obtain rfl := opened.names_eq
    rw [Symbol.isUnitFile, Bool.and_eq_true, List.isSuffixOf_iff_suffix] at unit
    have hstored : (ofContainer label content).InListedForm path ∧
        (ofContainer label content).read files path ≠ .ok none ↔ _ := readable_container_iff unit.2
    rw [ofContainer] at hstored
    rw [lists_container_iff, hstored]
    refine ⟨exists_storesFile_of_lastMade?, ?_⟩
    constructor
    · rintro hiff ⟨hfile, hdirectory⟩
      rw [hiff.2 hfile] at hdirectory
      cases hdirectory
    · intro hoverlaid
      refine ⟨exists_storesFile_of_lastMade?, fun hfile => ?_⟩
      -- some name bears on the path, so the last one that does makes it a file or a directory
      have hsome : (lastMade? content.names path).isSome = true := by
        obtain ⟨name, hname, hstores⟩ := hfile
        exact isSome_lastMade?.2 ⟨name, hname, by rw [makes?_eq_file.2 hstores]; rfl⟩
      obtain ⟨kind, hkind⟩ := Option.isSome_iff_exists.1 hsome
      cases kind with
      | file => exact hkind
      | directory => exact absurd ⟨hfile, hkind⟩ hoverlaid

/-- A file that is stored after what looks to lie below it is listed and read. -/
theorem lists_iff_read_iff_last :
    ∃ content, (Archive.memory "lib" (emptyFiles ["A.unit/x", "A.unit"])).toOpen .empty =
        .ok (.ofContainer "lib" content) ∧
      (ofContainer "lib" content).Lists .empty "A.unit" ∧
      (ofContainer "lib" content).read .empty "A.unit" ≠ .ok none := by
  obtain ⟨content, hopen, hnames⟩ := exists_toOpen_emptyFiles ["A.unit/x", "A.unit"]
    (by decide +kernel)
  have hlists : (ofContainer "lib" content).Lists .empty "A.unit" := by
    rw [ofContainer, lists_container_iff, hnames]
    decide +kernel
  obtain ⟨hread, -⟩ := lists_iff_read_iff ⟨.empty, _, hopen⟩ FileSystem.wellFormed_empty
    (by decide : Symbol.isUnitFile "A.unit" = true)
  exact ⟨content, hopen, hlists, (hread hlists).2⟩

/-- A container reads a file whose name is followed by that of a directory, but does not list it. -/
theorem read_not_lists : ¬ ∀ (files : FileSystem) (archive : OpenArchive) (path : String),
    files.WellFormed → archive.Opened → Symbol.isUnitFile path = true →
      (archive.Lists files path ↔
        archive.InListedForm path ∧ archive.read files path ≠ .ok none) := by
  intro h
  obtain ⟨content, hopen, hnames⟩ := exists_toOpen_emptyFiles ["A.unit", "A.unit/"]
    (by decide +kernel)
  have hiff := h .empty _ "A.unit" FileSystem.wellFormed_empty ⟨.empty, _, hopen⟩ (by decide)
  have hread : (ofContainer "lib" content).read .empty "A.unit" ≠ .ok none := by
    rw [read_container_ne_none_iff ⟨['A'], by decide⟩ (by decide +kernel), hnames]
    exact ⟨"A.unit", List.mem_cons_self, by decide +kernel⟩
  have hlists := hiff.2 ⟨⟨by decide, by decide, nofun⟩, hread⟩
  rw [ofContainer, lists_container_iff, hnames] at hlists
  exact absurd hlists (by decide +kernel)

end OpenArchive

end Isolation
