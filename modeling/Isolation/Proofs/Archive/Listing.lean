import Isolation.Proofs.Archive.Entry
import Isolation.Proofs.FileSystem.WellFormed
import Isolation.Proofs.Text.Order

/-!
# Listings

A listing shows the paths of an archive in ascending order, relative to its root, and with a path
the directories that it leads through. Of a directory it is a tree: no path ends in a slash, and
what a path leads through is listed as a directory. Names in a container are not checked, so that
its listing is a tree only if they agree among each other.

## Main definitions

* `StringMap.IsListing` — paths in order, relative and with their directories
* `StringMap.IsTree` — a listing that could be of a directory
* `OpenArchive.Agree` — stored names that make a tree

## Main results

* `OpenArchive.find?_entries_directory` — what lies below a directory is listed, and nothing else
* `OpenArchive.entries_isTree_iff` — which archives list a tree
* `OpenArchive.entries_not_isTree` — a container whose listing is no tree
-/

namespace Isolation

namespace StringMap

variable {α : Type} {map : StringMap α} {key : String}

theorem mem_keys : key ∈ map.keys ↔ (map.find? key).isSome = true :=
  Fields.isSome_find?.symm

theorem mem_keys_iff : key ∈ map.keys ↔ ∃ value, map.find? key = some value := by
  rw [mem_keys, Option.isSome_iff_exists]

/-- The keys ascend strictly, also as bytes. -/
theorem keys_ascending (map : StringMap α) :
    map.keys.Pairwise fun key other => Text.Utf8.encode key < Text.Utf8.encode other := by
  have hkeys : map.keys.Pairwise (· < ·) := Fields.ordered_iff_keys.1 map.ordered
  exact hkeys.imp Text.Utf8.encode_lt_encode

/-- A value that is given for a key is found, if all values that are given for it are the same. -/
theorem find?_ofList {pairs : List (String × α)} {value : α} (given : (key, value) ∈ pairs)
    (unique : ∀ other, (key, other) ∈ pairs → other = value) :
    (ofList pairs).find? key = some value := by
  obtain ⟨found, hfound⟩ := Option.isSome_iff_exists.1 (contains_ofList given)
  rw [hfound, unique found (Fields.mem_ofList (Fields.mem_of_find? hfound))]

/-- Paths ascend strictly in the order of their bytes, are relative to the root, and come with the
directories that they lead through. -/
structure IsListing (kinds : StringMap EntryKind) : Prop where
  ascending : kinds.keys.Pairwise fun path other => Text.Utf8.encode path < Text.Utf8.encode other
  relative : ∀ path ∈ kinds.keys,
    path ≠ "" ∧ ¬ ['/'] <+: path.toList ∧ ¬ ['.', '/'] <+: path.toList
  closed : ∀ path ∈ kinds.keys, ∀ directory rest : String,
    path = directory ++ "/" ++ rest → directory ∈ kinds.keys

/-- A listing in which no path ends in a slash, and what a path leads through is a directory. -/
structure IsTree (kinds : StringMap EntryKind) : Prop extends kinds.IsListing where
  unslashed : ∀ path ∈ kinds.keys, ¬ ['/'] <:+ path.toList
  directories : ∀ path ∈ kinds.keys, ∀ directory rest : String,
    path = directory ++ "/" ++ rest → kinds.find? directory = some .directory

end StringMap

namespace Path

variable {path : String}

/-- A path made of names is relative, and nothing is left out at its ends. -/
theorem relative_of_isName (h : ∀ segment ∈ segments path, IsName segment) :
    path ≠ "" ∧ ¬ ['/'] <+: path.toList ∧ ¬ ['.', '/'] <+: path.toList ∧ ¬ ['/'] <:+ path.toList := by
  -- at a slash a path falls into two, and the segments of both parts are names too
  have hparts (front rest : String) (hlist : path.toList = front.toList ++ '/' :: rest.toList) :
      (∀ segment ∈ segments front, IsName segment) ∧ ∀ segment ∈ segments rest, IsName segment := by
    have hpath : path = front ++ "/" ++ rest := by
      apply String.toList_injective
      simpa using hlist
    rw [hpath, segments_append] at h
    exact List.forall_mem_append.1 h
  have hempty : ¬ ∀ segment ∈ segments "", IsName segment := by decide
  refine ⟨?_, ?_, ?_, ?_⟩
  · rintro rfl
    exact hempty h
  · rintro ⟨rest, hrest⟩
    apply hempty
    exact (hparts "" (String.ofList rest) (by simpa using hrest.symm)).1
  · rintro ⟨rest, hrest⟩
    have hdot : ¬ ∀ segment ∈ segments ".", IsName segment := by decide
    apply hdot
    exact (hparts "." (String.ofList rest) (by simpa using hrest.symm)).1
  · rintro ⟨front, hfront⟩
    apply hempty
    exact (hparts (String.ofList front) "" (by simpa using hfront.symm)).2

end Path

/-- What a file or directory is listed as. -/
def EntryKind.ofTree (tree : FileTree) : EntryKind := if tree.isDirectory then .directory else .file

namespace OpenArchive

variable {files : FileSystem} {archive : OpenArchive} {root path : String} {stored : List String}
  {kinds : StringMap EntryKind} {kind : EntryKind}

/-! ### Directories -/

/-- A path below a directory is listed as what lies there, and nothing else is listed. -/
theorem find?_entries_directory (wellFormed : files.WellFormed)
    (h : (directory root).entries files = .ok kinds) :
    ∃ tree, files.find? root = some tree ∧ ∀ path kind, kinds.find? path = some kind ↔
      ∃ names child, names ≠ [] ∧ (∀ name ∈ names, Path.IsName name) ∧
        tree.descend? names = some child ∧ path = "/".intercalate names ∧
        kind = EntryKind.ofTree child := by
  simp only [entries] at h
  cases htree : files.find? root with
  | none =>
    rw [htree] at h
    cases h
  | some tree =>
    rw [htree] at h
    obtain rfl := Except.ok.inj h
    obtain ⟨place, -, hplace⟩ := Option.bind_eq_some_iff.1 htree
    have hbelow := wellFormed.root.of_descend? hplace
    -- what is given for a path is what lies there by its segments, so it is given only once
    have hgiven {path : String} {kind : EntryKind} :
        (path, kind) ∈ tree.listing.map
          (fun item => (item.1, if item.2 then EntryKind.directory else .file)) ↔
        ∃ names child, names ≠ [] ∧ (∀ name ∈ names, Path.IsName name) ∧
          tree.descend? names = some child ∧ path = "/".intercalate names ∧
          kind = EntryKind.ofTree child := by
      rw [List.mem_map]
      constructor
      · rintro ⟨item, hitem, heq⟩
        obtain ⟨names, child, hne, hnames, hchild, rfl⟩ := hbelow.exists_of_mem_listing hitem
        obtain ⟨rfl, rfl⟩ := Prod.mk.inj heq
        exact ⟨names, child, hne, hnames, hchild, rfl, rfl⟩
      · rintro ⟨names, child, hne, hnames, hchild, rfl, rfl⟩
        exact ⟨_, FileTree.mem_listing hchild hne, rfl⟩
    refine ⟨tree, rfl, fun path kind => ⟨fun hfound => ?_, fun hlies => ?_⟩⟩
    · exact hgiven.1 (Fields.mem_ofList (Fields.mem_of_find? hfound))
    · apply StringMap.find?_ofList (hgiven.2 hlies)
      intro other hother
      obtain ⟨names, child, hne, hnames, hchild, rfl, rfl⟩ := hlies
      obtain ⟨names', child', hne', hnames', hchild', hpath, rfl⟩ := hgiven.1 hother
      have hsegments := congrArg Path.segments hpath
      rw [Path.segments_intercalate hnames hne, Path.segments_intercalate hnames' hne'] at hsegments
      subst hsegments
      rw [hchild] at hchild'
      obtain rfl := Option.some.inj hchild'
      rfl

/-- The listing of a directory is a tree. -/
theorem isTree_directory (wellFormed : files.WellFormed)
    (h : (directory root).entries files = .ok kinds) : kinds.IsTree := by
  obtain ⟨tree, -, hlisted⟩ := find?_entries_directory wellFormed h
  have hsegments {path : String} (hpath : path ∈ kinds.keys) :
      (∀ segment ∈ Path.segments path, Path.IsName segment) ∧
        ∃ child, tree.descend? (Path.segments path) = some child := by
    obtain ⟨kind, hkind⟩ := StringMap.mem_keys_iff.1 hpath
    obtain ⟨names, child, hne, hnames, hchild, rfl, -⟩ := (hlisted path kind).1 hkind
    rw [Path.segments_intercalate hnames hne]
    exact ⟨hnames, child, hchild⟩
  -- what something lies below is a directory, and is listed as one
  have hdirectories : ∀ path ∈ kinds.keys, ∀ directory rest : String,
      path = directory ++ "/" ++ rest → kinds.find? directory = some .directory := by
    rintro path hpath directory rest rfl
    obtain ⟨hnames, child, hchild⟩ := hsegments hpath
    rw [Path.segments_append] at hnames hchild
    rw [FileTree.descend?_append] at hchild
    obtain ⟨middle, hmiddle, hrest⟩ := Option.bind_eq_some_iff.1 hchild
    rw [hlisted]
    refine ⟨Path.segments directory, middle, Path.segments_ne_nil directory, ?_, hmiddle, ?_, ?_⟩
    · intro name hname
      exact hnames name (List.mem_append_left _ hname)
    · rw [Path.intercalate_segments]
    · obtain ⟨entries, rfl⟩ :=
        FileTree.exists_directory_of_descend? hrest (Path.segments_ne_nil rest)
      rfl
  refine ⟨⟨kinds.keys_ascending, ?_, ?_⟩, ?_, hdirectories⟩
  · intro path hpath
    obtain ⟨hne, hslash, hdot, -⟩ := Path.relative_of_isName (hsegments hpath).1
    exact ⟨hne, hslash, hdot⟩
  · intro path hpath directory rest heq
    exact StringMap.mem_keys_iff.2 ⟨_, hdirectories path hpath directory rest heq⟩
  · intro path hpath
    exact (Path.relative_of_isName (hsegments hpath).1).2.2.2

/-! ### Containers -/

/-- The listing that stored names make. -/
def listingOf (stored : List String) : StringMap EntryKind := stored.foldl addName ∅

theorem mem_keys_listingOf : path ∈ (listingOf stored).keys ↔ ∃ name ∈ stored,
    (entryPath name = path ∧ path ≠ "") ∨ liesBelow path (entryPath name) = true := by
  rw [StringMap.mem_keys, listingOf, find?_foldl_addName, isSome_lastMade?]
  simp only [isSome_makes?]

/-- A path that is listed is where the entry path of some stored name begins. -/
theorem exists_prefix_of_mem_keys (h : path ∈ (listingOf stored).keys) :
    ∃ name ∈ stored, path.toList <+: (entryPath name).toList := by
  obtain ⟨name, hname, ⟨rfl, -⟩ | hbelow⟩ := mem_keys_listingOf.1 h
  · exact ⟨name, hname, List.prefix_rfl⟩
  · rw [liesBelow, List.isPrefixOf_iff_prefix] at hbelow
    exact ⟨name, hname, (List.prefix_append _ _).trans hbelow⟩

/-- Whatever names are stored, they make a listing. -/
theorem isListing_listingOf (stored : List String) : (listingOf stored).IsListing := by
  refine ⟨StringMap.keys_ascending _, ?_, ?_⟩
  · intro path hpath
    obtain ⟨name, -, hprefix⟩ := exists_prefix_of_mem_keys hpath
    refine ⟨?_, fun hslash => ?_, fun hdot => ?_⟩
    · rintro rfl
      obtain ⟨name, -, ⟨-, hne⟩ | hbelow⟩ := mem_keys_listingOf.1 hpath
      · exact hne rfl
      · rw [liesBelow, List.isPrefixOf_iff_prefix] at hbelow
        exact not_prefix_entryPath.1 hbelow
    · exact not_prefix_entryPath.1 (hslash.trans hprefix)
    · exact not_prefix_entryPath.2 (hdot.trans hprefix)
  · rintro path hpath directory rest rfl
    -- a name that leads through the path leads through the directory first
    obtain ⟨name, hname, hprefix⟩ := exists_prefix_of_mem_keys hpath
    refine mem_keys_listingOf.2 ⟨name, hname, .inr ?_⟩
    rw [liesBelow, List.isPrefixOf_iff_prefix]
    exact List.IsPrefix.trans ⟨rest.toList, by simp⟩ hprefix

/-- Stored names agree if none of them has a doubled slash in its entry path, and if the last name
that bears on a path makes it a directory wherever another name leads through it. -/
structure Agree (stored : List String) : Prop where
  single : ∀ name ∈ stored, ¬ ['/', '/'] <:+: (entryPath name).toList
  directories : ∀ name ∈ stored, ∀ other ∈ stored,
    liesBelow (entryPath name) (entryPath other) = true →
      lastMade? stored (entryPath name) = some .directory

/-- A path that ends in a slash is listed if there is a doubled slash in a stored name. -/
theorem unslashed_iff : (∀ path ∈ (listingOf stored).keys, ¬ ['/'] <:+ path.toList) ↔
    ∀ name ∈ stored, ¬ ['/', '/'] <:+: (entryPath name).toList := by
  constructor
  · rintro hpaths name hname ⟨front, rest, hsplit⟩
    refine hpaths (String.ofList (front ++ ['/'])) (mem_keys_listingOf.2 ⟨name, hname, .inr ?_⟩) ?_
    · rw [liesBelow, List.isPrefixOf_iff_prefix, String.toList_ofList]
      exact ⟨rest, by simpa using hsplit⟩
    · rw [String.toList_ofList]
      exact List.suffix_append _ _
  · rintro hnames path hpath ⟨front, hfront⟩
    obtain ⟨name, hname, ⟨rfl, -⟩ | hbelow⟩ := mem_keys_listingOf.1 hpath
    · -- entry paths do not end in a slash themselves
      refine (getLast?_entryPath : (entryPath name).toList.getLast? ≠ some '/') ?_
      rw [← hfront, List.getLast?_append, List.getLast?_singleton, Option.some_or]
    · rw [liesBelow, List.isPrefixOf_iff_prefix, ← hfront] at hbelow
      obtain ⟨rest, hrest⟩ := hbelow
      exact hnames name hname ⟨front, rest, by simpa using hrest⟩

/-- What a path leads through is listed as a directory if names that are stored for it leave it at
that. -/
theorem directories_iff : (∀ path ∈ (listingOf stored).keys, ∀ directory rest : String,
      path = directory ++ "/" ++ rest → (listingOf stored).find? directory = some .directory) ↔
    ∀ name ∈ stored, ∀ other ∈ stored, liesBelow (entryPath name) (entryPath other) = true →
      lastMade? stored (entryPath name) = some .directory := by
  simp only [listingOf, find?_foldl_addName]
  constructor
  · intro hpaths name _ other hother hbelow
    obtain ⟨rest, hrest⟩ := liesBelow_iff.1 hbelow
    refine hpaths (entryPath other) ?_ _ rest hrest
    refine mem_keys_listingOf.2 ⟨other, hother, .inl ⟨rfl, fun hempty => ?_⟩⟩
    rw [hempty] at hbelow
    simp [liesBelow] at hbelow
  · rintro hnames path hpath directory rest rfl
    obtain ⟨other, hother, hprefix⟩ := exists_prefix_of_mem_keys hpath
    have hbelow : liesBelow directory (entryPath other) = true := by
      rw [liesBelow, List.isPrefixOf_iff_prefix]
      exact List.IsPrefix.trans ⟨rest.toList, by simp⟩ hprefix
    have hsome : (lastMade? stored directory).isSome = true :=
      isSome_lastMade?.2 ⟨other, hother, isSome_makes?.2 (.inr hbelow)⟩
    obtain ⟨kind, hkind⟩ := Option.isSome_iff_exists.1 hsome
    cases kind with
    | directory => exact hkind
    | file =>
      -- only a name that is stored for the directory makes a file of it, and then it is not the last
      obtain ⟨name, hname, hmakes⟩ := exists_of_lastMade? hkind
      obtain ⟨rfl, -⟩ := storesFile_iff.1 (makes?_eq_file.1 hmakes)
      exact hnames name hname other hother hbelow

theorem isTree_listingOf_iff : (listingOf stored).IsTree ↔ Agree stored := by
  constructor
  · intro tree
    exact ⟨unslashed_iff.1 tree.unslashed, directories_iff.1 tree.directories⟩
  · intro agree
    exact ⟨isListing_listingOf stored, unslashed_iff.2 agree.single,
      directories_iff.2 agree.directories⟩

/-! ### Which archives list trees -/

/-- An archive lists a tree if it is a directory, or if the names that are stored in it agree. -/
def ListsTree : OpenArchive → Prop
  | directory _ => True
  | container _ content _ => Agree content.names

/-- An archive that was opened can be listed. Whenever it is listed, paths come in strictly ascending
order, none is empty or begins with a slash or with a dot and a slash, and the directories that they
lead through are listed too; and it is a tree if and only if the archive is a directory, of regular
files and directories, or a container whose names agree. -/
theorem entries_isTree_iff {source : Archive} (h : source.toOpen files = .ok archive) :
    (∃ kinds, archive.entries files = .ok kinds) ∧
      ∀ later : FileSystem, later.WellFormed → ∀ kinds, archive.entries later = .ok kinds →
        kinds.IsListing ∧ (kinds.IsTree ↔ archive.ListsTree) := by
  obtain ⟨root, entries, -, hroot, rfl⟩ | ⟨content, rfl⟩ := Archive.toOpen_cases h
  · constructor
    · simp only [OpenArchive.entries, hroot]
      exact ⟨_, rfl⟩
    · intro later wellFormed kinds hkinds
      have tree := isTree_directory wellFormed hkinds
      exact ⟨tree.toIsListing, fun _ => trivial, fun _ => tree⟩
  · constructor
    · exact ⟨_, rfl⟩
    · intro later _ kinds hkinds
      obtain rfl : listingOf content.names = kinds := Except.ok.inj hkinds
      exact ⟨isListing_listingOf content.names, isTree_listingOf_iff⟩

/-! ### Containers of empty files -/

/-- What stands in a container in front of an empty file. -/
def localRecord (name : String) : List UInt8 :=
  let bytes := Text.Utf8.encode name
  [0x50, 0x4B, 0x03, 0x04] ++ List.replicate 22 0 ++ [UInt8.ofNat bytes.length, 0, 0, 0] ++ bytes

/-- The directory of a container of empty files, from an offset on. -/
def directoryRecords (offset : Nat) : List String → List UInt8
  | [] => []
  | name :: names =>
    let bytes := Text.Utf8.encode name
    [0x50, 0x4B, 0x01, 0x02] ++ List.replicate 24 0 ++ [UInt8.ofNat bytes.length] ++
      List.replicate 13 0 ++ [UInt8.ofNat offset, 0, 0, 0] ++ bytes ++
      directoryRecords (offset + (localRecord name).length) names

/-- A small container in which names are stored for empty files. -/
def emptyFiles (names : List String) : List UInt8 :=
  let files := names.flatMap localRecord
  let directory := directoryRecords 0 names
  let count := UInt8.ofNat names.length
  files ++ directory ++ [0x50, 0x4B, 0x05, 0x06, 0, 0, 0, 0, count, 0, count, 0] ++
    [UInt8.ofNat directory.length, 0, 0, 0, UInt8.ofNat files.length, 0, 0, 0, 0, 0]

/-- Such a container opens, if its bytes say what they are meant to say. -/
theorem exists_toOpen_emptyFiles (names : List String)
    (h : (Zip.Container.ofBytes? (emptyFiles names)).map Zip.Container.names = some names) :
    ∃ content, (Archive.memory "lib" (emptyFiles names)).toOpen .empty =
        .ok (.ofContainer "lib" content) ∧ content.names = names := by
  obtain ⟨content, hcontent, hnames⟩ := Option.map_eq_some_iff.1 h
  refine ⟨content, ?_, hnames⟩
  rw [Archive.toOpen, openBytes, hcontent]

/-- Names with leading slashes and dots, and one of a directory, agree if they are in order
otherwise. -/
theorem entries_isTree_iff_leading :
    ∃ content, (Archive.memory "lib" (emptyFiles ["./pkg/A.unit", "pkg/", "/pkg/B.unit"])).toOpen
        .empty = .ok (.ofContainer "lib" content) ∧
      ∀ kinds, (ofContainer "lib" content).entries .empty = .ok kinds → kinds.IsTree := by
  obtain ⟨content, hopen, hnames⟩ := exists_toOpen_emptyFiles
    ["./pkg/A.unit", "pkg/", "/pkg/B.unit"] (by decide +kernel)
  refine ⟨content, hopen, fun kinds hkinds => ?_⟩
  obtain ⟨-, hlisted⟩ := entries_isTree_iff hopen
  refine (hlisted .empty FileSystem.wellFormed_empty kinds hkinds).2.2 ?_
  rw [ofContainer, ListsTree, hnames]
  exact ⟨by decide +kernel, by decide +kernel⟩

/-- A container may list a path that ends in a slash, and a file that other paths lead through. -/
theorem entries_not_isTree : ¬ ∀ (files : FileSystem) (source : Archive) (archive : OpenArchive)
    (kinds : StringMap EntryKind), files.WellFormed → source.toOpen files = .ok archive →
      archive.entries files = .ok kinds → kinds.IsTree := by
  intro h
  obtain ⟨content, hopen, hnames⟩ := exists_toOpen_emptyFiles ["p//q.unit", "p"] (by decide +kernel)
  have tree := h .empty _ _ _ FileSystem.wellFormed_empty hopen rfl
  have agree : Agree content.names := isTree_listingOf_iff.1 tree
  rw [hnames] at agree
  exact agree.single "p//q.unit" List.mem_cons_self (by decide +kernel)

end OpenArchive

end Isolation
