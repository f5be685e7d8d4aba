import Isolation.Proofs.Archive.Entry
import Isolation.Proofs.Loader.Identity
import Isolation.Proofs.Loader.Search

/-!
# What a boundary does not serve

A boundary makes no unit for a request that begins with one of the strings it excludes, at no time
and on no way to its archives. This is about the request as it is spelled. Archives are more lenient:
they find a unit for several requests, so that a unit whose name is excluded may be made for a request
that is not spelled as names are, and for no other.

## Main definitions

* `LoadedUnit.ReadFor` — a unit was read for a request from an archive that was opened
* `Boundary.Sourced`, `Loaders.Sourced` — all units of a boundary were, for requests it does not
  exclude

## Main results

* `Boundary.Sourced.searches` — searches keep to this
* `System.run_sourced` — so do all operations
* `System.run_excluded` — what a boundary does not serve
-/

namespace Isolation

/-- A unit was read for a request, at some time, from one of the archives that are listed. -/
def LoadedUnit.ReadFor (listed : List Archive) (symbol : String) (unit : LoadedUnit) : Prop :=
  ∃ files archive, OpenArchive.OpenedFrom listed archive ∧ archive.label = unit.archive ∧
    archive.read files (Symbol.toPath symbol) = .ok (some unit.bytes)

/-- All units that are kept are kept under requests that a policy does not exclude, and were read for
them. -/
def SourcedUnits (policy : Policy) (listed : List Archive) (units : StringMap LoadedUnit) : Prop :=
  ∀ symbol unit, units.find? symbol = some unit →
    policy.route symbol ≠ .excluded ∧ unit.ReadFor listed symbol

/-- A boundary keeps what it read for requests that it does not exclude, and reads archives on its
search path. -/
structure Boundary.Sourced (boundary : Boundary) : Prop where
  units : SourcedUnits boundary.policy boundary.searchPath boundary.cache
  isolated : ∀ sets, boundary.sets = some sets →
    ∀ archive ∈ sets.isolated, archive.OpenedFrom boundary.searchPath
  fallback : ∀ sets opened, boundary.sets = some sets → sets.fallback = some opened →
    ∀ archive ∈ opened, archive.OpenedFrom boundary.searchPath

/-- All boundaries do so. -/
def Loaders.Sourced (loaders : Loaders) : Prop :=
  ∀ ref boundary, loaders.get? ref = some (.boundary boundary) → boundary.Sourced

/-! ### Archives -/

theorem openedFrom_of_openFallback {files : FileSystem} {boundary : Boundary} {sets : OpenSets}
    {opened : List OpenArchive} (sourced : boundary.Sourced) (unshut : boundary.sets = some sets)
    (opens : boundary.openFallback files sets = .ok opened) :
    ∀ archive ∈ opened, archive.OpenedFrom boundary.searchPath := by
  rw [Boundary.openFallback] at opens
  cases hsets : sets.fallback with
  | none =>
    rw [hsets] at opens
    exact openedFrom_of_openAll opens
  | some already =>
    rw [hsets] at opens
    obtain rfl := Except.ok.inj opens
    exact sourced.fallback sets already unshut hsets

/-! ### Boundaries -/

namespace Boundary

variable {files : FileSystem} {symbol : String} {old new boundary : Boundary}

/-- A boundary is built without units, and with archives that are open. -/
theorem Sourced.built {loaders : Loaders} (new : loaders.Built files (.boundary boundary)) :
    boundary.Sourced := by
  cases new with
  | boundary below opens =>
    refine ⟨nofun, ?_, ?_⟩
    · intro sets hsets
      cases hsets
      intro archive harchive
      exact (openedFrom_of_openAll opens archive harchive).of_subset (List.subset_append_left _ _)
    · intro sets opened hsets hfallback
      cases hsets
      cases hfallback

/-- Searches lead to units only that were read for the request, and there are none for requests that
are excluded. -/
theorem Sourced.searches (searches : old.Searches files symbol new) (sourced : old.Sourced) :
    new.Sourced := by
  obtain @⟨archives, sets, serial, answer, cache, serial', reads, unknown, search⟩ := searches
  have opened : ∀ archive ∈ archives, archive.OpenedFrom old.searchPath := by
    cases reads with
    | isolated unshut => exact sourced.isolated sets unshut
    | fallback unshut _ opens => exact openedFrom_of_openFallback sourced unshut opens
  refine ⟨fun other unit kept => ?_, fun sets' hsets => ?_, fun sets' fallback hsets hfallback => ?_⟩
  · obtain kept | ⟨rfl, located, hfound, rfl⟩ := kept_of_search search kept
    · exact sourced.units other unit kept
    · obtain ⟨archive, harchive, hlabel, hread⟩ := exists_of_findUnit hfound
      exact ⟨reads.route_ne_excluded, files, archive, opened archive harchive, hlabel, hread⟩
  · cases hsets
    cases reads with
    | isolated unshut => exact sourced.isolated sets unshut
    | @fallback held _ unshut => exact sourced.isolated held unshut
  · cases hsets
    cases reads with
    | isolated unshut => exact sourced.fallback sets fallback unshut hfallback
    | fallback =>
      cases hfallback
      exact opened

/-- A boundary that is closed has neither units nor archives. -/
theorem Sourced.close : boundary.close.Sourced := ⟨nofun, nofun, nofun⟩

end Boundary

open Loaders

variable {operation : Operation} {operations : List Operation} {system : System}

theorem Loaders.sourced_nil {loaders : Loaders} (empty : loaders.list = []) : loaders.Sourced := by
  intro ref boundary here
  cases (get?_nil empty ref).symm.trans here

theorem Operation.perform_sourced (layered : system.loaders.Layered)
    (sourced : system.loaders.Sourced) : (operation.perform system).loaders.Sourced :=
  operation.perform_boundaries layered sourced .built .searches fun _ => .close

theorem System.run_sourced (layered : system.loaders.Layered) (sourced : system.loaders.Sourced) :
    (system.run operations).loaders.Sourced :=
  System.run_boundaries layered sourced .built .searches fun _ => .close

/-- What is not excluded begins with nothing that is. -/
theorem Policy.route_ne_excluded {policy : Policy} {symbol : String}
    (h : policy.route symbol ≠ .excluded) :
    ∀ start ∈ policy.excluded.toList, Symbol.startsWith symbol start = false := by
  intro start hstart
  cases hstarts : Symbol.startsWith symbol start with
  | false => rfl
  | true =>
    have hmatches : Symbol.matchesAny symbol policy.excluded.toList = true :=
      List.any_eq_true.2 ⟨start, hstart, hstarts⟩
    rw [Policy.route, if_pos hmatches] at h
    exact absurd rfl h

/-- A unit that a boundary made is kept by this boundary, for the request that it was made for. -/
theorem System.readFor_of_resolve {ref asked : LoaderRef} {symbol : String} {boundary : Boundary}
    {unit : LoadedUnit} (layered : system.loaders.Layered) (numbered : system.loaders.Numbered)
    (sourced : system.loaders.Sourced)
    (here : system.loaders.get? ref = some (.boundary boundary))
    (answered : (system.resolve asked symbol).1 = .done (.ok unit))
    (own : unit.loader = boundary.id) :
    boundary.policy.route symbol ≠ .excluded ∧ unit.ReadFor boundary.searchPath symbol := by
  have answers := System.answers_of_resolve layered answered
  obtain ⟨maker, hmade, hmaker⟩ := System.exists_maker layered numbered answered
  obtain ⟨found, hfound, hid⟩ := Option.map_eq_some_iff.1 hmaker
  -- requests leave a boundary in its place, with its number, its policy and its search path
  obtain ⟨loader, hloader, hframe⟩ := exists_of_frame (answers.frame_eq layered) here
  obtain ⟨now, rfl, hpolicy, -⟩ := Loader.exists_boundary_of_frame hframe
  have hmine : found.id = (Loader.boundary now).id := by
    rw [hid, own, Loader.id_of_frame hframe]
    rfl
  obtain rfl : maker = ref := (numbered.answers layered answers).id_inj hfound hloader hmine
  have hpath : now.searchPath = boundary.searchPath := Loader.archives_of_frame hframe
  rw [made?_of_get? hloader] at hmade
  rw [← hpolicy, ← hpath]
  obtain here | ⟨old, here, searches⟩ := answers.searches layered hloader
  · exact (sourced _ now here).units symbol unit hmade
  · exact ((sourced _ old here).searches searches).units symbol unit hmade

/-- What a boundary does not serve. Whatever was done before, and whichever loader is asked: if the
answer is a unit that a boundary made, then the request begins with nothing that the boundary
excludes. The unit was read from an archive on the search path of that boundary, in which it is
listed under its entry path (a directory is listed without what is behind links, of which there are
none here), and if the request is spelled as names are, then the name of the unit begins with nothing
excluded either. -/
theorem System.run_excluded {start : System} (empty : start.loaders.list = [])
    (operations : List Operation) (ref asked : LoaderRef) (symbol : String) (boundary : Boundary)
    (unit : LoadedUnit)
    (here : (start.run operations).loaders.get? ref = some (.boundary boundary))
    (answered : ((start.run operations).resolve asked symbol).1 = .done (.ok unit))
    (own : unit.loader = boundary.id) :
    (∀ excluded ∈ boundary.policy.excluded.toList,
        Symbol.startsWith symbol excluded = false) ∧
      ∃ (files : FileSystem) (archive : OpenArchive) (kinds : StringMap EntryKind),
        archive.OpenedFrom boundary.searchPath ∧ archive.label = unit.archive ∧
        archive.read files (Symbol.toPath symbol) = .ok (some unit.bytes) ∧
        archive.entries files = .ok kinds ∧
        kinds.contains (archive.entryAt (Symbol.toPath symbol)) = true ∧
        (archive.Spelled symbol → ∀ excluded ∈ boundary.policy.excluded.toList,
          Symbol.startsWith (Symbol.ofPath (archive.entryAt (Symbol.toPath symbol))) excluded =
            false) := by
  have layered := System.run_layered operations (layered_nil empty)
  have numbered : (start.run operations).loaders.Numbered :=
    System.run_numbered (layered_nil empty) (numbered_nil empty)
  have sourced : (start.run operations).loaders.Sourced :=
    System.run_sourced (layered_nil empty) (sourced_nil empty)
  obtain ⟨hroute, files, archive, hopened, hlabel, hread⟩ :=
    System.readFor_of_resolve layered numbered sourced here answered own
  have hexcluded := Policy.route_ne_excluded hroute
  obtain ⟨kinds, hkinds, hlisted⟩ := OpenArchive.entries_of_read hopened.opened hread
  refine ⟨hexcluded, files, archive, kinds, hopened, hlabel, hread, hkinds, hlisted, ?_⟩
  intro spelled excluded hmem
  cases hstarts : Symbol.startsWith
      (Symbol.ofPath (archive.entryAt (Symbol.toPath symbol))) excluded with
  | false => rfl
  | true => exact (spelled.startsWith hstarts).symm.trans (hexcluded excluded hmem)

/-! ### A secret unit -/

theorem get?_of_boundary? {loaders : Loaders} {ref : LoaderRef} {boundary : Boundary}
    (h : loaders.boundary? ref = some boundary) : loaders.get? ref = some (.boundary boundary) := by
  rw [boundary?] at h
  split at h
  · next here =>
    cases h
    exact here
  · cases h

/-- A directory with a public unit and a secret one, and with one more whose path reads like that of
the secret one. -/
def secretFiles : FileSystem :=
  { root := .directory [("lib", .directory [
      ("pkg", .directory [("Y.unit", .file [1]), ("secret", .directory [("X.unit", .file [2])])]),
      ("pkg\\secret", .directory [("X.unit", .file [3])])])]
    working := [] }

/-- A host without archives, and a boundary on this directory that excludes what is secret. -/
def hostAndGuard : List Operation :=
  [.host [] .empty processStore,
    .boundary { archives := [.directory "lib"], included := .ofList ["pkg"]
                excluded := .ofList ["pkg.secret"] } 0 .empty]

/-- The system with both. -/
def guarded : System := System.run hostAndGuard { files := secretFiles }

theorem exists_guard : ∃ boundary, guarded.loaders.boundary? 1 = some boundary :=
  Option.isSome_iff_exists.1 (by decide +kernel)

/-- The public unit is served, and its name begins with nothing excluded. -/
theorem System.run_excluded_public :
    ∃ boundary unit, guarded.loaders.get? 1 = some (.boundary boundary) ∧
      (guarded.resolve 1 "pkg.Y").1 = .done (.ok unit) ∧ unit.loader = boundary.id ∧
      ∃ files archive, OpenArchive.read files archive "pkg/Y.unit" = .ok (some unit.bytes) ∧
        ∀ excluded ∈ boundary.policy.excluded.toList,
          Symbol.startsWith (Symbol.ofPath (archive.entryAt "pkg/Y.unit")) excluded = false := by
  obtain ⟨boundary, hboundary⟩ := exists_guard
  obtain ⟨unit, hunit⟩ : ∃ unit, unitOf? (guarded.resolve 1 "pkg.Y").1 = some unit :=
    Option.isSome_iff_exists.1 (by decide +kernel)
  have hloaders : (unitOf? (guarded.resolve 1 "pkg.Y").1).map LoadedUnit.loader =
      (guarded.loaders.boundary? 1).map Boundary.id := by decide +kernel
  rw [hunit, hboundary] at hloaders
  have hown : unit.loader = boundary.id := Option.some.inj hloaders
  have here := get?_of_boundary? hboundary
  have hanswer := eq_of_unitOf? hunit
  obtain ⟨-, files, archive, -, -, -, hread, -, -, hname⟩ :=
    System.run_excluded rfl hostAndGuard 1 1 "pkg.Y" boundary unit here hanswer hown
  have hpath : Symbol.toPath "pkg.Y" = "pkg/Y.unit" := by decide
  have hspelled : archive.Spelled "pkg.Y" := ⟨by simp, by decide, fun _ _ => by decide⟩
  rw [hpath] at hread hname
  exact ⟨boundary, unit, here, hanswer, hown, files, archive, hread, hname hspelled⟩

/-- The boundary makes the secret unit for a request, from the archive of its own, although the name
of the unit begins with something that it excludes. -/
def ServesSecret (symbol : String) : Prop :=
  ∃ boundary sets unit, guarded.loaders.get? 1 = some (.boundary boundary) ∧
    boundary.sets = some sets ∧ sets.isolated.map OpenArchive.label = ["lib"] ∧
    (guarded.resolve 1 symbol).1 = .done (.ok unit) ∧ unit.loader = boundary.id ∧
    unit.archive = "lib" ∧
    (OpenArchive.directory "lib").read secretFiles (Symbol.toPath symbol) = .ok (some unit.bytes) ∧
    Symbol.ofPath ((OpenArchive.directory "lib").entryAt (Symbol.toPath symbol)) = "pkg.secret.X" ∧
    ∃ excluded ∈ boundary.policy.excluded.toList,
      Symbol.startsWith "pkg.secret.X" excluded = true

/-- Requests with a separator in place of a delimiter, with a delimiter in front, and with a doubled
one. -/
def secretSpellings : List String :=
  ["pkg/secret.X", "pkg\\secret.X", ".pkg.secret.X", "pkg..secret.X"]

theorem servesSecret {symbol : String} (spelling : symbol ∈ secretSpellings) :
    ServesSecret symbol := by
  have hserved : ∀ symbol ∈ secretSpellings,
      (unitOf? (guarded.resolve 1 symbol).1).isSome = true := by decide +kernel
  have hmade : ∀ symbol ∈ secretSpellings,
      (unitOf? (guarded.resolve 1 symbol).1).map (fun unit => (unit.loader, unit.archive)) =
        (guarded.loaders.boundary? 1).map (fun boundary => (boundary.id, "lib")) := by
    decide +kernel
  have hread : ∀ symbol ∈ secretSpellings,
      ((OpenArchive.directory "lib").read secretFiles (Symbol.toPath symbol)).toOption =
        some ((unitOf? (guarded.resolve 1 symbol).1).map LoadedUnit.bytes) := by decide +kernel
  have hname : ∀ symbol ∈ secretSpellings,
      Symbol.ofPath ((OpenArchive.directory "lib").entryAt (Symbol.toPath symbol)) =
        "pkg.secret.X" := by decide +kernel
  have hopened : ((guarded.loaders.boundary? 1).bind Boundary.sets).map
      (fun sets => sets.isolated.map OpenArchive.label) = some ["lib"] := by decide +kernel
  have hmatches : (guarded.loaders.boundary? 1).map
      (fun boundary => Symbol.matchesAny "pkg.secret.X" boundary.policy.excluded.toList) =
        some true := by decide +kernel
  obtain ⟨boundary, hboundary⟩ := exists_guard
  obtain ⟨unit, hunit⟩ := Option.isSome_iff_exists.1 (hserved symbol spelling)
  have hmade := hmade symbol spelling
  have hread := hread symbol spelling
  rw [hboundary] at hopened hmatches
  rw [hunit, hboundary] at hmade
  rw [hunit] at hread
  obtain ⟨hown, harchive⟩ := Prod.mk.inj (Option.some.inj hmade)
  obtain ⟨sets, hsets, hlabels⟩ := Option.map_eq_some_iff.1 hopened
  obtain ⟨excluded, hmem, hstarts⟩ := List.any_eq_true.1 (Option.some.inj hmatches)
  exact ⟨boundary, sets, unit, get?_of_boundary? hboundary, hsets, hlabels, eq_of_unitOf? hunit,
    hown, harchive, eq_ok_of_toOption hread, hname symbol spelling, excluded, hmem, hstarts⟩

/-- The secret unit is served all the same if a separator stands for a delimiter in the request, if
there is a delimiter in front, or if one is doubled. -/
theorem System.excluded_served :
    ServesSecret "pkg/secret.X" ∧ ServesSecret "pkg\\secret.X" ∧ ServesSecret ".pkg.secret.X" ∧
      ServesSecret "pkg..secret.X" :=
  ⟨servesSecret (by decide), servesSecret (by decide), servesSecret (by decide),
    servesSecret (by decide)⟩

end Isolation
