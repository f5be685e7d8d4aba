import Isolation.Proofs.FileSystem

/-!
# Files under proper names

What lies in a directory has a name there, which is neither empty nor a dot or two and holds no
slash, and the names of a directory differ. Files stay so whatever is written and removed. Then the
path that a file is listed under leads to it.

## Main definitions

* `Path.IsName` — a name that something in a directory may have
* `FileTree.WellFormed`, `FileSystem.WellFormed` — everything lies under such names

## Main results

* `FileTree.WellFormed.exists_of_mem_listing` — what is listed lies below, by the names in its path
* `FileSystem.fileData?_join` — a file that lies below a directory is found below its path
* `FileSystem.wellFormed_empty`, `FileSystem.WellFormed.write`, `FileSystem.WellFormed.remove`
-/

namespace Isolation

namespace Path

/-- A name that something in a directory may have. -/
structure IsName (name : String) : Prop where
  single : '/' ∉ name.toList
  normal : component? name = some (.normal name)

instance (name : String) : Decidable (IsName name) :=
  decidable_of_iff ('/' ∉ name.toList ∧ component? name = some (.normal name))
    ⟨fun h => ⟨h.1, h.2⟩, fun h => ⟨h.single, h.normal⟩⟩

variable {path name : String} {names : List String}

/-- Names that are joined by slashes are the segments again. -/
theorem segments_intercalate (h : ∀ name ∈ names, IsName name) (hne : names ≠ []) :
    segments ("/".intercalate names) = names := by
  have hslash : "/".toList = ['/'] := rfl
  rw [segments, String.toList_intercalate, hslash, List.splitOn_intercalate]
  · simp
  · intro chars hchars
    obtain ⟨name, hname, rfl⟩ := List.mem_map.1 hchars
    exact (h name hname).single
  · simpa using hne

/-- Names that are joined by slashes have no slash in front. -/
theorem isAbsolute_intercalate (h : ∀ name ∈ names, IsName name) (hne : names ≠ []) :
    isAbsolute ("/".intercalate names) = false := by
  cases names with
  | nil => exact absurd rfl hne
  | cons first rest =>
    refine isAbsolute_eq_false (segments_intercalate h hne) ?_
    rintro rfl
    exact absurd (h "" List.mem_cons_self).normal (by decide)

/-- The components of names that are joined by slashes. -/
theorem components_intercalate (h : ∀ name ∈ names, IsName name) (hne : names ≠ []) :
    components ("/".intercalate names) = names.map .normal := by
  have hsegments := segments_intercalate h hne
  rw [components_eq_map, hsegments]
  intro segment hsegment
  rw [hsegments] at hsegment
  exact (h segment hsegment).normal

theorem not_mem_of_mem_segments (h : name ∈ segments path) : '/' ∉ name.toList := by
  obtain ⟨chars, hchars, rfl⟩ := List.mem_map.1 h
  rw [String.toList_ofList]
  clear h
  generalize path.toList = text at hchars
  -- a character goes to the front of the first part, or starts a new one if it is a slash
  induction text generalizing chars with
  | nil =>
    obtain rfl := List.mem_singleton.1 hchars
    exact List.not_mem_nil
  | cons c text ih =>
    rw [List.splitOn_cons_eq_if_modifyHead] at hchars
    split at hchars
    · obtain rfl | hchars := List.mem_cons.1 hchars
      · exact List.not_mem_nil
      · exact ih chars hchars
    · next hc =>
      cases hparts : text.splitOn '/' with
      | nil => exact absurd hparts (List.splitOn_ne_nil '/' text)
      | cons first rest =>
        rw [hparts] at hchars ih
        obtain rfl | hchars := List.mem_cons.1 hchars
        · intro hslash
          obtain rfl | hslash := List.mem_cons.1 hslash
          · exact hc (beq_self_eq_true _)
          · exact ih first List.mem_cons_self hslash
        · exact ih chars (List.mem_cons_of_mem first hchars)

/-- The components of a path that lead down are names. -/
theorem isName_of_mem_components (h : .normal name ∈ components path) : IsName name := by
  have hcomponent {segment : String} (hsegment : segment ∈ segments path)
      (hnormal : component? segment = some (.normal name)) : IsName name := by
    obtain rfl : segment = name := by
      rw [component?] at hnormal
      split at hnormal
      · cases hnormal
      · split at hnormal <;> cases hnormal
        rfl
    exact ⟨not_mem_of_mem_segments hsegment, hnormal⟩
  rw [components] at h
  split at h
  · cases h
  · next first rest hsegments =>
    rw [hsegments] at hcomponent
    obtain h | h := List.mem_append.1 h
    · split at h
      · simp at h
      · split at h
        · simp at h
        · exact hcomponent List.mem_cons_self (Option.mem_toList.1 h)
    · obtain ⟨segment, hsegment, hnormal⟩ := List.mem_filterMap.1 h
      exact hcomponent (List.mem_cons_of_mem first hsegment) hnormal

theorem isName_of_mem_names (h : name ∈ Path.names path) : IsName name := by
  obtain ⟨component, hcomponent, hname⟩ := List.mem_filterMap.1 h
  cases component with
  | normal other =>
    obtain rfl := Option.some.inj hname
    exact isName_of_mem_components hcomponent
  | root | current | parent => cases hname

end Path

namespace FileTree

/-- Everything in a directory has a proper name, and these names differ. -/
inductive WellFormed : FileTree → Prop
  | file (data : List UInt8) : WellFormed (file data)
  | directory {entries : List (String × FileTree)} (ordered : Fields.Ordered entries)
      (names : ∀ entry ∈ entries, Path.IsName entry.1)
      (below : ∀ entry ∈ entries, WellFormed entry.2) : WellFormed (directory entries)

variable {tree child : FileTree} {entries : List (String × FileTree)} {name : String}
  {item : String × Bool}

theorem mem_listingOf_iff : item ∈ listingOf entries ↔ ∃ entry ∈ entries,
    item = (entry.1, entry.2.isDirectory) ∨
      ∃ below ∈ entry.2.listing, item = (entry.1 ++ "/" ++ below.1, below.2) := by
  induction entries with
  | nil => simp [listingOf]
  | cons entry entries ih =>
    simp [listingOf, ih, eq_comm, or_assoc]

/-- What is listed lies below, by the names in its path. -/
theorem WellFormed.exists_of_mem_listing (wellFormed : tree.WellFormed) (h : item ∈ tree.listing) :
    ∃ names child, names ≠ [] ∧ (∀ name ∈ names, Path.IsName name) ∧
      tree.descend? names = some child ∧ item = ("/".intercalate names, child.isDirectory) := by
  induction wellFormed generalizing item with
  | file data => simp [listing] at h
  | @directory entries ordered proper below ih =>
    rw [listing, mem_listingOf_iff] at h
    obtain ⟨entry, hentry, rfl | ⟨deeper, hdeeper, rfl⟩⟩ := h
    · refine ⟨[entry.1], entry.2, List.cons_ne_nil _ _, ?_, ?_, ?_⟩
      · simpa using proper entry hentry
      · simp [descend?, child?, Fields.find?_of_mem ordered hentry]
      · rw [String.intercalate_singleton]
    · obtain ⟨names, child, hne, hnames, hchild, rfl⟩ := ih entry hentry hdeeper
      refine ⟨entry.1 :: names, child, List.cons_ne_nil _ _, ?_, ?_, ?_⟩
      · simpa using ⟨proper entry hentry, hnames⟩
      · simpa [descend?, child?, Fields.find?_of_mem ordered hentry] using hchild
      · rw [String.intercalate_cons_of_ne_nil hne]

/-! ### What is written and removed -/

theorem WellFormed.of_child? (wellFormed : tree.WellFormed) (h : tree.child? name = some child) :
    child.WellFormed := by
  cases wellFormed with
  | file data => cases h
  | directory ordered proper below => exact below (name, child) (Fields.mem_of_find? h)

theorem WellFormed.of_descend? {names : List String} (wellFormed : tree.WellFormed)
    (h : tree.descend? names = some child) : child.WellFormed := by
  induction names generalizing tree with
  | nil =>
    obtain rfl := Option.some.inj h
    exact wellFormed
  | cons name names ih =>
    obtain ⟨next, hnext, hrest⟩ := Option.bind_eq_some_iff.1 h
    exact ih (wellFormed.of_child? hnext) hrest

theorem WellFormed.insert (wellFormed : (FileTree.directory entries).WellFormed)
    (proper : Path.IsName name) (h : child.WellFormed) :
    (FileTree.directory (Fields.insert name child entries)).WellFormed := by
  obtain _ | ⟨ordered, names, below⟩ := wellFormed
  refine .directory (Fields.ordered_insert ordered) (fun entry hentry => ?_) fun entry hentry => ?_
  · obtain rfl | hentry := Fields.mem_insert hentry
    · exact proper
    · exact names entry hentry
  · obtain rfl | hentry := Fields.mem_insert hentry
    · exact h
    · exact below entry hentry

theorem wellFormed_directory_nil : (directory []).WellFormed :=
  .directory Fields.ordered_nil nofun nofun

/-- Setting a changed entry in a directory. -/
theorem WellFormed.of_bind_insert {changed : Option FileTree} {after : FileTree}
    (wellFormed : (FileTree.directory entries).WellFormed) (proper : Path.IsName name)
    (hchanged : ∀ child, changed = some child → child.WellFormed)
    (h : (do return FileTree.directory (Fields.insert name (← changed) entries)) = some after) :
    after.WellFormed := by
  obtain ⟨child, hchild, hafter⟩ := Option.bind_eq_some_iff.1 h
  obtain rfl := Option.some.inj hafter
  exact wellFormed.insert proper (hchanged child hchild)

theorem WellFormed.alter? {change? : Option FileTree → Option FileTree} {names : List String}
    {after : FileTree} (wellFormed : tree.WellFormed) (proper : ∀ name ∈ names, Path.IsName name)
    (change : ∀ old new, (∀ tree ∈ old, tree.WellFormed) → change? old = some new → new.WellFormed)
    (h : tree.alter? change? names = some after) : after.WellFormed := by
  induction names, tree using FileTree.alter?.induct generalizing after with
  | case1 tree =>
    rw [FileTree.alter?] at h
    exact change (some tree) after (by simpa using wellFormed) h
  | case2 => simp [FileTree.alter?] at h
  | case3 name entries old names hold ih =>
    rw [FileTree.alter?.eq_3 _ _ _ _ _ hold] at h
    refine wellFormed.of_bind_insert (proper name List.mem_cons_self) (fun child hchild => ?_) h
    exact ih (wellFormed.of_child? hold)
      (fun other hother => proper other (List.mem_cons_of_mem name hother)) hchild
  | case4 name entries hnone =>
    rw [FileTree.alter?.eq_4 _ _ _ hnone] at h
    exact wellFormed.of_bind_insert (proper name List.mem_cons_self)
      (fun child => change none child nofun) h
  | case5 name entries names hne hnone ih =>
    rw [FileTree.alter?.eq_5 _ _ _ _ hnone hne] at h
    refine wellFormed.of_bind_insert (proper name List.mem_cons_self) (fun child hchild => ?_) h
    exact ih wellFormed_directory_nil
      (fun other hother => proper other (List.mem_cons_of_mem name hother)) hchild

theorem WellFormed.remove {names : List String} (wellFormed : tree.WellFormed)
    (proper : ∀ name ∈ names, Path.IsName name) : (tree.remove names).WellFormed := by
  induction names generalizing tree with
  | nil => simpa [FileTree.remove] using wellFormed
  | cons name names ih =>
    have hnames := fun other hother => proper other (List.mem_cons_of_mem name hother)
    cases tree with
    | file data => simpa [FileTree.remove] using wellFormed
    | directory entries =>
      cases names with
      | nil =>
        rw [FileTree.remove]
        cases wellFormed with
        | directory ordered names below =>
          refine .directory (Fields.ordered_erase ordered) (fun entry hentry => ?_)
            fun entry hentry => ?_
          · exact names entry (List.mem_filter.1 hentry).1
          · exact below entry (List.mem_filter.1 hentry).1
      | cons second names =>
        rw [FileTree.remove]
        · split
          · next child hchild =>
            exact wellFormed.insert (proper name List.mem_cons_self)
              (ih (wellFormed.of_child? hchild) hnames)
          · exact wellFormed
        · simp

end FileTree

namespace FileSystem

variable {files : FileSystem} {place names : List String} {tree child : FileTree}

/-- Everything lies under proper names, and so does the working directory. -/
structure WellFormed (files : FileSystem) : Prop where
  root : files.root.WellFormed
  working : ∀ name ∈ files.working, Path.IsName name

theorem wellFormed_empty : FileSystem.empty.WellFormed where
  root := by
    refine .directory (List.pairwise_singleton _ _) ?_ ?_
    · decide
    · simpa using FileTree.wellFormed_directory_nil
  working := by decide

theorem WellFormed.isName_of_mem_namesOf (wellFormed : files.WellFormed) {path : String} :
    ∀ name ∈ files.namesOf path, Path.IsName name := by
  rw [namesOf]
  refine List.foldlRecOn (motive := fun place => ∀ name ∈ place, Path.IsName name) _ _
    wellFormed.working ?_
  intro place hplace component hcomponent name hname
  cases component with
  | root => exact absurd hname List.not_mem_nil
  | current => exact hplace name hname
  | parent => exact hplace name (List.dropLast_subset place hname)
  | normal last =>
    obtain hname | hname := List.mem_append.1 hname
    · exact hplace name hname
    · obtain rfl := List.mem_singleton.1 hname
      exact Path.isName_of_mem_components hcomponent

/-- Writing keeps everything under proper names. -/
theorem WellFormed.write (wellFormed : files.WellFormed) (path : String)
    (data : Option (List UInt8)) : (files.write path data).WellFormed := by
  simp only [FileSystem.write]
  split
  · next root hroot =>
    refine ⟨wellFormed.root.alter? wellFormed.isName_of_mem_namesOf ?_ hroot,
      wellFormed.working⟩
    intro old new hold hnew
    split at hnew
    · obtain rfl := Option.some.inj hnew
      split
      · exact .file _
      · exact FileTree.wellFormed_directory_nil
    · obtain ⟨_, -, rfl⟩ := Option.map_eq_some_iff.1 hnew
      exact .file _
    · split at hnew
      · obtain rfl := Option.some.inj hnew
        exact hold _ rfl
      · cases hnew
  · exact wellFormed

/-- A place that a walk leads to is made of names. -/
theorem isName_of_foldlM_step? {segments last : List String}
    (h : segments.foldlM files.step? place = some last)
    (hsegments : ∀ segment ∈ segments, '/' ∉ segment.toList)
    (hplace : ∀ name ∈ place, Path.IsName name) : ∀ name ∈ last, Path.IsName name := by
  induction segments generalizing place with
  | nil =>
    obtain rfl := Option.some.inj h
    exact hplace
  | cons segment segments ih =>
    rw [List.foldlM_cons] at h
    obtain ⟨next, hnext, hrest⟩ := Option.bind_eq_some_iff.1 h
    refine ih hrest (fun other hother => hsegments other (List.mem_cons_of_mem segment hother)) ?_
    rw [step?] at hnext
    split at hnext
    · split at hnext
      · obtain rfl := Option.some.inj hnext
        exact hplace
      · next hsome =>
        split at hnext
        · obtain rfl := Option.some.inj hnext
          exact fun name hname => hplace name (List.dropLast_subset place hname)
        · next hup =>
          obtain ⟨_, -, rfl⟩ := Option.map_eq_some_iff.1 hnext
          intro name hname
          obtain hname | hname := List.mem_append.1 hname
          · exact hplace name hname
          · obtain rfl := List.mem_singleton.1 hname
            refine ⟨hsegments name List.mem_cons_self, ?_⟩
            rw [Path.component?, if_neg hsome, if_neg hup]
    · cases hnext

theorem WellFormed.isName_of_locate? (wellFormed : files.WellFormed) {path : String}
    (h : files.locate? path = some place) : ∀ name ∈ place, Path.IsName name := by
  rw [locate?] at h
  split at h
  · cases h
  · refine isName_of_foldlM_step? h (fun segment => Path.not_mem_of_mem_segments) ?_
    split
    · exact fun name hname => absurd hname List.not_mem_nil
    · exact wellFormed.working

/-- Removing keeps everything under proper names. -/
theorem WellFormed.remove (wellFormed : files.WellFormed) (path : String) :
    (files.remove path).2.WellFormed := by
  rw [FileSystem.remove]
  split
  · next names hnames =>
    exact ⟨wellFormed.root.remove (wellFormed.isName_of_locate? hnames), wellFormed.working⟩
  · exact wellFormed

/-! ### What is found below -/

/-- A file that lies below a directory is found below its path. -/
theorem fileData?_join {base : String} {entries : List (String × FileTree)} {data : List UInt8}
    (hbase : files.find? base = some (.directory entries)) (hne : names ≠ [])
    (hnames : ∀ name ∈ names, Path.IsName name)
    (h : (FileTree.directory entries).descend? names = some (.file data)) :
    files.fileData? (Path.join base ("/".intercalate names)) = some data := by
  have hsegments := Path.segments_intercalate hnames hne
  have hnonempty : base ≠ "" := by
    rintro rfl
    cases hbase
  have hup : ".." ∉ Path.segments ("/".intercalate names) := by
    rw [hsegments]
    intro hmem
    exact absurd (hnames ".." hmem) (by decide)
  rw [fileData?_eq_some, find?_join hnonempty (Path.isAbsolute_intercalate hnames hne) hup, hbase,
    Option.bind_some, hsegments, FileTree.walk?_eq_descend? fun name hname => (hnames name hname).normal]
  exact h

end FileSystem

end Isolation
