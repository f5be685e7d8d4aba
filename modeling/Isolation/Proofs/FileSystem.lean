import Isolation.FileSystem
import Isolation.Proofs.Fields

/-!
# Walking along paths

A path that only leads down is walked name by name, so what lies at it lies below by its names, and
is listed there.

## Main definitions

* `Path.Component.name?`, `Path.names` — the names in a path
* `FileTree.walk?` — what segments of a path go to that do not lead up

## Main results

* `Path.segments_join` — the segments of a path below another
* `FileSystem.find?_join` — what lies at a path below another
* `FileSystem.exists_of_fileData?_join` — a file below a path that only leads down
* `FileTree.mem_listing` — what lies below is listed
-/

namespace Isolation

namespace Path

/-- The name in a component, if it leads down. -/
def Component.name? : Component → Option String
  | normal name => some name
  | _ => none

/-- The names in a path, one below the other. -/
def names (path : String) : List String := (components path).filterMap Component.name?

/-- Whether all components of a path lead down. -/
def Descends (path : String) : Prop := ∀ component ∈ components path, ∃ name, component = .normal name

theorem segments_append (path rest : String) :
    segments (path ++ "/" ++ rest) = segments path ++ segments rest := by
  have hlist : (path ++ "/" ++ rest).toList = path.toList ++ '/' :: rest.toList := by
    simp
  rw [segments, hlist, List.splitOn_append_cons_self, List.map_append]
  rfl

theorem segments_ne_nil (path : String) : segments path ≠ [] := by
  simp [segments, List.splitOn_ne_nil]

/-- A path that ends in a slash is another one with an empty segment behind it. -/
theorem exists_of_getLast? {path : String} (h : path.toList.getLast? = some '/') :
    ∃ front : String, path = front ++ "/" := by
  obtain ⟨front, hfront⟩ := List.getLast?_eq_some_iff.1 h
  refine ⟨String.ofList front, ?_⟩
  apply String.toList_injective
  simpa using hfront

theorem isAbsolute_append {path : String} (h : path ≠ "") (rest : String) :
    isAbsolute (path ++ rest) = isAbsolute path := by
  cases hlist : path.toList with
  | nil => exact absurd (String.toList_injective hlist) h
  | cons c cs => simp [isAbsolute, hlist, List.isPrefixOf]

/-- A path below another has the segments of both, and starts where the latter starts. -/
theorem segments_join {base path : String} (hbase : base ≠ "") (relative : isAbsolute path = false) :
    ∃ front, segments (join base path) = front ++ segments path ∧
      (segments base = front ∨ segments base = front ++ [""]) ∧
      isAbsolute (join base path) = isAbsolute base := by
  rw [join, relative, if_neg Bool.false_ne_true]
  by_cases hslash : base.toList.getLast? = some '/'
  · obtain ⟨front, rfl⟩ := exists_of_getLast? hslash
    rw [if_pos (.inr hslash)]
    refine ⟨segments front, segments_append front path, .inr ?_, isAbsolute_append hbase path⟩
    have h := segments_append front ""
    rw [String.append_empty] at h
    rw [h]
    rfl
  · rw [if_neg (not_or.2 ⟨hbase, hslash⟩), String.append_assoc]
    refine ⟨segments base, ?_, .inl rfl, isAbsolute_append hbase _⟩
    rw [← String.append_assoc]
    exact segments_append base path

/-- If all components lead down, every segment is a name or means nothing. -/
theorem Descends.components_eq {path : String} (h : Descends path) :
    components path = (segments path).filterMap component? := by
  rw [Descends, components] at *
  cases hsegments : segments path with
  | nil => rfl
  | cons first rest =>
    rw [hsegments] at h
    simp only at h ⊢
    by_cases habsolute : isAbsolute path = true
    · rw [if_pos habsolute] at h
      obtain ⟨name, hname⟩ := h .root (by simp)
      cases hname
    · rw [if_neg habsolute] at h ⊢
      by_cases hcurrent : first = "."
      · rw [if_pos hcurrent] at h
        obtain ⟨name, hname⟩ := h .current (by simp)
        cases hname
      · rw [if_neg hcurrent, List.filterMap_cons]
        cases component? first <;> rfl

theorem Descends.relative {path : String} (h : Descends path) : isAbsolute path = false := by
  cases habsolute : isAbsolute path with
  | false => rfl
  | true =>
    rw [Descends, components] at h
    cases hsegments : segments path with
    | nil => exact absurd hsegments (segments_ne_nil path)
    | cons first rest =>
      rw [hsegments] at h
      simp only [habsolute, if_true] at h
      obtain ⟨name, hname⟩ := h .root (by simp)
      cases hname

/-- No segment of such a path leads up. -/
theorem Descends.not_mem_segments {path : String} (h : Descends path) : ".." ∉ segments path := by
  intro hup
  have hparent : Component.parent ∈ components path := by
    rw [h.components_eq, List.mem_filterMap]
    exact ⟨"..", hup, by decide⟩
  obtain ⟨name, hname⟩ := h _ hparent
  cases hname

/-- The segments of a path, joined again. -/
theorem intercalate_segments (path : String) : "/".intercalate (segments path) = path := by
  apply String.toList_injective
  have hlist : ((segments path).map String.toList) = path.toList.splitOn '/' := by
    simp [segments]
  have hslash : "/".toList = ['/'] := rfl
  rw [String.toList_intercalate, hlist, hslash, List.intercalate_splitOn]

theorem filterMap_component? {segments : List String}
    (h : ∀ segment ∈ segments, component? segment = some (.normal segment)) :
    segments.filterMap component? = segments.map .normal := by
  induction segments with
  | nil => rfl
  | cons segment segments ih =>
    rw [List.filterMap_cons, h segment List.mem_cons_self, List.map_cons,
      ih fun other hother => h other (List.mem_cons_of_mem segment hother)]

theorem isAbsolute_eq_false {path first : String} {rest : List String}
    (h : segments path = first :: rest) (hfirst : first ≠ "") : isAbsolute path = false := by
  cases hlist : path.toList with
  | nil => simp [isAbsolute, hlist]
  | cons c cs =>
    by_cases hc : c = '/'
    · rw [segments, hlist, hc, List.splitOn_cons_eq_if_modifyHead] at h
      simp only [beq_self_eq_true, if_true, List.map_cons, List.cons.injEq] at h
      exact absurd h.1.symm hfirst
    · simp [isAbsolute, hlist, List.isPrefixOf, Ne.symm hc]

/-- If all segments of a path are names, it is made of them. -/
theorem components_eq_map {path : String}
    (h : ∀ segment ∈ segments path, component? segment = some (.normal segment)) :
    components path = (segments path).map .normal := by
  cases hsegments : segments path with
  | nil => exact absurd hsegments (segments_ne_nil path)
  | cons first rest =>
    rw [hsegments] at h
    have hfirst := h first List.mem_cons_self
    have hrest : rest.filterMap component? = rest.map .normal :=
      filterMap_component? fun segment hsegment => h segment (List.mem_cons_of_mem first hsegment)
    have hempty : first ≠ "" := by
      rintro rfl
      cases hfirst
    have hcurrent : first ≠ "." := by
      rintro rfl
      cases hfirst
    rw [components, hsegments]
    simp only [isAbsolute_eq_false hsegments hempty, Bool.false_eq_true, if_false, hcurrent,
      hfirst, hrest]
    rfl

/-- If all segments of a path are names, these are the names in it. -/
theorem names_eq_segments {path : String}
    (h : ∀ segment ∈ segments path, component? segment = some (.normal segment)) :
    names path = segments path := by
  rw [names, components_eq_map h, List.filterMap_map]
  exact List.filterMap_some

end Path

namespace FileTree

variable {tree child : FileTree} {names more : List String}

theorem descend?_append :
    tree.descend? (names ++ more) = (tree.descend? names).bind fun child => child.descend? more := by
  induction names generalizing tree with
  | nil => simp [descend?]
  | cons name names ih =>
    rw [List.cons_append, descend?, descend?]
    cases tree.child? name with
    | none => rfl
    | some child => exact ih

/-- Only in a directory there is something below. -/
theorem exists_directory_of_descend? (h : tree.descend? names = some child) (hne : names ≠ []) :
    ∃ entries, tree = directory entries := by
  cases tree with
  | directory entries => exact ⟨entries, rfl⟩
  | file data =>
    obtain ⟨first, rest, rfl⟩ := List.exists_cons_of_ne_nil hne
    cases h

theorem mem_listingOf {entries : List (String × FileTree)} {name : String}
    (h : (name, child) ∈ entries) :
    (name, child.isDirectory) ∈ listingOf entries ∧
      ∀ item ∈ child.listing, (name ++ "/" ++ item.1, item.2) ∈ listingOf entries := by
  induction entries with
  | nil => cases h
  | cons entry entries ih =>
    obtain ⟨other, tree⟩ := entry
    rw [listingOf]
    rcases List.mem_cons.1 h with heq | hmem
    · cases heq
      constructor
      · simp
      · intro item hitem
        apply List.mem_cons_of_mem
        apply List.mem_append_left
        exact List.mem_map_of_mem hitem
    · obtain ⟨hself, hbelow⟩ := ih hmem
      constructor
      · exact List.mem_cons_of_mem _ (List.mem_append_right _ hself)
      · intro item hitem
        exact List.mem_cons_of_mem _ (List.mem_append_right _ (hbelow item hitem))

/-- What lies below is listed by the names that lead to it. -/
theorem mem_listing (h : tree.descend? names = some child) (hne : names ≠ []) :
    ("/".intercalate names, child.isDirectory) ∈ tree.listing := by
  -- what lies in a directory is listed there with its name in front
  induction names generalizing tree with
  | nil => exact absurd rfl hne
  | cons name names ih =>
    rw [descend?] at h
    obtain ⟨next, hnext, hrest⟩ := Option.bind_eq_some_iff.1 h
    cases tree with
    | file data => cases hnext
    | directory entries =>
      obtain ⟨hself, hbelow⟩ := mem_listingOf (Fields.mem_of_find? hnext)
      rw [listing]
      cases names with
      | nil =>
        cases hrest
        rw [String.intercalate_singleton]
        exact hself
      | cons second names =>
        rw [String.intercalate_cons_cons]
        exact hbelow _ (ih hrest (List.cons_ne_nil _ _))

/-! ### Walking -/

/-- What a segment that does not lead up goes to. Even one that goes nowhere needs a directory to stand
in. -/
def step? (tree : FileTree) (segment : String) : Option FileTree :=
  match tree with
  | directory entries =>
    if segment = "" ∨ segment = "." then some (directory entries) else Fields.find? segment entries
  | file _ => none

/-- What segments that do not lead up go to, one after the other. -/
def walk? (tree : FileTree) (segments : List String) : Option FileTree := segments.foldlM step? tree

theorem walk?_cons {segment : String} {segments : List String} :
    tree.walk? (segment :: segments) = (tree.step? segment).bind fun next => next.walk? segments := by
  rw [walk?, List.foldlM_cons]
  rfl

/-- A segment that goes nowhere makes no difference if another one follows. -/
theorem bind_walk?_empty {segments : List String} (hne : segments ≠ []) :
    ((tree.walk? [""]).bind fun next => next.walk? segments) = tree.walk? segments := by
  cases tree with
  | directory entries => rfl
  | file data =>
    obtain ⟨first, rest, rfl⟩ := List.exists_cons_of_ne_nil hne
    rfl

/-- Walking along segments that only lead down goes to what lies below by their names. -/
theorem descend?_of_walk? {segments : List String} (h : tree.walk? segments = some child)
    (down : ∀ component ∈ segments.filterMap Path.component?, ∃ name, component = .normal name) :
    tree.descend? ((segments.filterMap Path.component?).filterMap Path.Component.name?) =
      some child := by
  induction segments generalizing tree with
  | nil => exact h
  | cons segment segments ih =>
    rw [walk?_cons] at h
    obtain ⟨next, hnext, hrest⟩ := Option.bind_eq_some_iff.1 h
    cases tree with
    | file data => cases hnext
    | directory entries =>
      rw [step?] at hnext
      rw [List.filterMap_cons, Path.component?] at down ⊢
      split at hnext
      · next hnothing =>
        rw [if_pos hnothing] at down ⊢
        obtain rfl := Option.some.inj hnext
        exact ih hrest down
      · next hsomething =>
        rw [if_neg hsomething] at down ⊢
        by_cases hup : segment = ".."
        · rw [if_pos hup] at down
          obtain ⟨name, hname⟩ := down .parent List.mem_cons_self
          cases hname
        · rw [if_neg hup] at down ⊢
          have hbelow := ih hrest fun component hcomponent =>
            down component (List.mem_cons_of_mem _ hcomponent)
          simp only [List.filterMap_cons, Path.Component.name?, descend?, child?, hnext,
            Option.bind_some, hbelow]

/-- Walking along names goes to what lies below by them. -/
theorem walk?_eq_descend? (h : ∀ name ∈ names, Path.component? name = some (.normal name)) :
    tree.walk? names = tree.descend? names := by
  induction names generalizing tree with
  | nil => rfl
  | cons name names ih =>
    have hname := h name List.mem_cons_self
    have hsomething : ¬ (name = "" ∨ name = ".") := by
      intro hnothing
      rw [Path.component?, if_pos hnothing] at hname
      cases hname
    have hstep : tree.step? name = tree.child? name := by
      cases tree with
      | directory entries => rw [step?, if_neg hsomething, child?]
      | file data => rfl
    rw [walk?_cons, descend?, hstep]
    congr 1
    funext next
    exact ih fun other hother => h other (List.mem_cons_of_mem name hother)

end FileTree

namespace FileSystem

variable {files : FileSystem} {base path : String} {data : List UInt8}

/-- From a place on, segments that do not lead up go to what they go to from what lies there. -/
theorem bind_foldlM_step? {segments : List String} (place : List String)
    (down : ".." ∉ segments) :
    (segments.foldlM files.step? place).bind files.root.descend? =
      (files.root.descend? place).bind fun tree => tree.walk? segments := by
  induction segments generalizing place with
  | nil => exact (Option.bind_fun_some _).symm
  | cons segment segments ih =>
    obtain ⟨hup, hrest⟩ := not_or.1 (mt List.mem_cons.2 down)
    rw [List.foldlM_cons, Option.bind_eq_bind, Option.bind_assoc]
    simp only [ih _ hrest, FileTree.walk?_cons]
    rw [step?]
    cases hplace : files.root.descend? place with
    | none => rfl
    | some tree =>
      cases tree with
      | file data => rfl
      | directory entries =>
        simp only [Option.bind_some, FileTree.step?]
        split
        · rw [Option.bind_some, hplace, Option.bind_some]
        · rw [if_neg (Ne.symm hup)]
          have hnext : files.root.descend? (place ++ [segment]) = Fields.find? segment entries := by
            rw [FileTree.descend?_append, hplace, Option.bind_some, FileTree.descend?]
            simp [FileTree.child?, FileTree.descend?]
          cases hfind : Fields.find? segment entries with
          | none => rfl
          | some child => rw [Option.map_some, Option.bind_some, hnext, hfind]

/-- What lies at a path below another depends on what lies at the latter, and on nothing else. -/
theorem find?_join (hbase : base ≠ "") (relative : Path.isAbsolute path = false)
    (down : ".." ∉ Path.segments path) :
    files.find? (Path.join base path) =
      (files.find? base).bind fun tree => tree.walk? (Path.segments path) := by
  obtain ⟨front, hjoin, hfront, habsolute⟩ := Path.segments_join hbase relative
  have hjoined : Path.join base path ≠ "" := by
    rw [Path.join, relative, if_neg Bool.false_ne_true]
    split <;> simp [hbase]
  rw [find?, find?, locate?, locate?, if_neg hjoined, if_neg hbase, hjoin, habsolute,
    List.foldlM_append, Option.bind_eq_bind, Option.bind_assoc]
  simp only [bind_foldlM_step? _ down]
  rcases hfront with hfront | hfront
  · rw [hfront, Option.bind_assoc]
  · -- the empty segment behind the path above needs a directory, and so does what follows
    rw [hfront, List.foldlM_append, Option.bind_eq_bind, Option.bind_assoc, Option.bind_assoc]
    congr 1
    funext place
    rw [← Option.bind_assoc, bind_foldlM_step? place (by decide), Option.bind_assoc]
    simp only [FileTree.bind_walk?_empty (Path.segments_ne_nil path)]

theorem fileData?_eq_some : files.fileData? path = some data ↔ files.find? path = some (.file data) := by
  rw [fileData?]
  split
  · next found hfound => simp [hfound]
  · next hother =>
    constructor
    · nofun
    · intro hfound
      exact absurd hfound (hother data)

/-- A file below a path that only leads down lies in a directory, below by its names. -/
theorem exists_of_fileData?_join (hbase : base ≠ "") (down : Path.Descends path)
    (h : files.fileData? (Path.join base path) = some data) :
    ∃ tree, files.find? base = some tree ∧ Path.names path ≠ [] ∧
      tree.descend? (Path.names path) = some (.file data) := by
  rw [fileData?_eq_some, find?_join hbase down.relative down.not_mem_segments] at h
  obtain ⟨tree, htree, hwalk⟩ := Option.bind_eq_some_iff.1 h
  have hdata : tree.descend? (Path.names path) = some (.file data) := by
    rw [Path.names, down.components_eq]
    refine FileTree.descend?_of_walk? hwalk ?_
    rw [← down.components_eq]
    exact down
  refine ⟨tree, htree, fun hempty => ?_, hdata⟩
  -- without names the file would lie at the base itself, and no segment leads on from there
  rw [hempty] at hdata
  obtain rfl := Option.some.inj hdata
  obtain ⟨first, rest, hsegments⟩ := List.exists_cons_of_ne_nil (Path.segments_ne_nil path)
  rw [hsegments, FileTree.walk?_cons] at hwalk
  cases hwalk

end FileSystem

end Isolation
