import Isolation.Policy.File
import Isolation.Proofs.Archive.Package
import Isolation.Proofs.Loader.Run

/-!
# Discovered packages

A policy with discovery is gone by as if the packages of its archives were written in it. As the
name of a unit begins with that of its directory, the units of the packages are isolated then,
unless they are excluded. Unit files at the top of an archive are in no package, whatever their
names look like.

## Main definitions

* `System.Builds` — a boundary that is built
* `PolicyFile.Alike` — policy files that say the same in different orders

## Main results

* `Policy.route_withDiscovered` — what discovered packages change
* `System.route_effectivePolicy` — the routes that a boundary goes by
* `PolicyFile.boundary_discovers` — the boundary of a policy file with discovery
* `units_in_packages` — the units that are reported, their packages and their routes
* `units_not_in_packages` — a unit with a qualified name that is in no package
-/

namespace Isolation

variable {files : FileSystem} {archives : List Archive} {opened : List OpenArchive}
  {policy effective : Policy} {packages names : StringSet} {name symbol : String}

/-! ### Routes -/

/-- Discovered packages change the route of symbols that are left to the host, and of no others. -/
theorem Policy.route_withDiscovered (policy : Policy) (packages : StringSet) (symbol : String) :
    (policy.withDiscovered packages).route symbol =
      if policy.route symbol = .delegated ∧ Symbol.matchesAny symbol packages.toList = true then
        .isolated
      else policy.route symbol := by
  have hunion : Symbol.matchesAny symbol (policy.included.union packages).toList =
      (Symbol.matchesAny symbol policy.included.toList ||
        Symbol.matchesAny symbol packages.toList) := by
    rw [Bool.eq_iff_iff, Bool.or_eq_true]
    simp only [Symbol.matchesAny_eq_true, StringSet.mem_toList, StringSet.mem_union, or_and_right,
      exists_or]
  rw [route, route, withDiscovered, hunion]
  by_cases hexcluded : Symbol.matchesAny symbol policy.excluded.toList = true
  · simp [hexcluded]
  · by_cases hincluded : Symbol.matchesAny symbol policy.included.toList = true
    · simp [hexcluded, hincluded]
    · simp [hexcluded, hincluded]

/-- The policy that a boundary goes by. -/
theorem System.route_effectivePolicy {files : FileSystem} (policy : Policy) {packages : StringSet}
    (found : scan files policy.archives policy.ignores .packages = .ok packages) :
    ∃ effective, System.effectivePolicy files policy = .ok effective ∧ ∀ symbol,
      effective.route symbol =
        if policy.discover = true ∧ policy.route symbol = .delegated ∧
            Symbol.matchesAny symbol packages.toList = true then .isolated
        else policy.route symbol := by
  rw [effectivePolicy]
  cases policy.discover with
  | false => exact ⟨policy, rfl, by simp⟩
  | true =>
    rw [if_pos rfl, found]
    exact ⟨_, rfl, by simp [Policy.route_withDiscovered]⟩

/-- What begins with an included name is isolated, or excluded. -/
theorem Policy.route_of_mem {start : String} (included : start ∈ policy.included)
    (starts : Symbol.startsWith symbol start = true) :
    policy.route symbol =
      if Symbol.matchesAny symbol policy.excluded.toList then .excluded else .isolated := by
  have hincluded : Symbol.matchesAny symbol policy.included.toList = true :=
    Symbol.matchesAny_eq_true.2 ⟨start, StringSet.mem_toList.2 included, starts⟩
  rw [route, hincluded, if_pos rfl]

/-! ### Boundaries that discover -/

/-- A boundary of a policy is built below a loader, and stands among the loaders afterwards. -/
def System.Builds (system : System) (policy : Policy) (parent : LoaderRef) (registry : Registry)
    (boundary : Boundary) : Prop :=
  ∃ ref after, system.makeBoundary policy parent registry = (.ok ref, after) ∧
    after.loaders.boundary? ref = some boundary

/-- A boundary is built if the archives open, and goes by the policy with what is discovered. -/
theorem System.exists_builds (system : System) (parent : LoaderRef) (registry : Registry)
    (goes : effectivePolicy system.files policy = .ok effective)
    (opens : openAll system.files policy.archives = .ok opened) :
    ∃ boundary, system.Builds policy parent registry boundary ∧ boundary.policy = effective := by
  rw [← archives_of_effectivePolicy goes] at opens
  obtain ⟨context, stores, -, hmake⟩ := exists_makeBoundary parent registry goes opens
  refine ⟨system.boundaryBelow effective parent opened registry context, ⟨_, _, hmake, ?_⟩, rfl⟩
  have here : (system.loaders.takeId.2.add (.boundary
      (system.boundaryBelow effective parent opened registry context))).2.get?
        system.loaders.list.length = some (.boundary _) :=
    Loaders.get?_extend_self _
  rw [Loaders.boundary?, here]

/-- With discovery, the packages of the archives are included. -/
theorem System.exists_effectivePolicy (policy : Policy) (discovers : policy.discover = true)
    (opens : openAll files policy.archives = .ok opened) :
    ∃ packages, effectivePolicy files policy = .ok (policy.withDiscovered packages) ∧
      ∀ name, name ∈ packages ↔ IsPackage files opened policy.ignores name := by
  obtain ⟨packages, found⟩ := exists_scan policy.ignores .packages opens
  refine ⟨packages, ?_, fun name => mem_scan_packages found opens⟩
  rw [effectivePolicy, discovers, if_pos rfl, found]
  rfl

/-- The units of a package that is included are isolated, unless they are excluded. -/
theorem Policy.route_unitFile {directory : String} (named : Symbol.ofPath directory ≠ "")
    (included : Symbol.ofPath directory ∈ policy.included) (stem : String) :
    policy.route (Symbol.ofPath (Symbol.unitFile directory stem)) =
      if Symbol.matchesAny (Symbol.ofPath (Symbol.unitFile directory stem))
        policy.excluded.toList then .excluded else .isolated :=
  policy.route_of_mem included (Symbol.startsWith_unitFile named stem)

/-! ### Policy files -/

namespace PolicyFile

variable {system : System} {file : PolicyFile} {source : FileSystem}

/-- What is read from a file is accepted. -/
theorem accepted_of_load {path : String} (loads : load files path = .ok file) : file.Accepted := by
  rw [load] at loads
  split at loads
  · cases loads
  · obtain ⟨parsed, hparsed, rfl⟩ := map_eq_ok loads
    rw [parse] at hparsed
    split at hparsed
    · obtain ⟨rfl, accepted⟩ := accepted_of_validate hparsed
      exact accepted
    · cases hparsed

/-- No name in a policy file is empty. -/
theorem Accepted.ne_empty (accepted : file.Accepted)
    (h : name ∈ file.includes ++ file.excludes ++ file.ignores) : name ≠ "" := by
  rintro rfl
  exact absurd (List.all_eq_true.1 accepted.1 "" h) (by decide)

/-- Two files that say the same, in whatever order and however often. -/
structure Alike (file other : PolicyFile) (source : FileSystem) : Prop where
  includes : ∀ name, name ∈ other.includes ↔ name ∈ file.includes
  excludes : ∀ name, name ∈ other.excludes ↔ name ∈ file.excludes
  ignores : ∀ name, name ∈ other.ignores ↔ name ∈ file.ignores
  archives : ∀ archive,
    archive ∈ other.isolatedArchives source ↔ archive ∈ file.isolatedArchives source
  discover : other.discover = file.discover

/-- With discovery the boundary includes what is written and the packages of the archives. -/
theorem exists_discovering (discovers : file.discover = true)
    (opens : openAll system.files (file.isolatedArchives source) = .ok opened)
    (parent : LoaderRef) (registry : Registry) :
    ∃ boundary packages, system.Builds (file.policy source) parent registry boundary ∧
      boundary.policy = (file.policy source).withDiscovered packages ∧
      (∀ name, name ∈ boundary.policy.included ↔
        name ∈ file.includes ∨ IsPackage system.files opened file.ignores name) ∧
      ∀ name, name ∈ boundary.policy.excluded ↔ name ∈ file.excludes := by
  obtain ⟨packages, goes, hpackages⟩ :=
    System.exists_effectivePolicy (file.policy source) discovers opens
  obtain ⟨boundary, builds, hpolicy⟩ := system.exists_builds parent registry goes opens
  refine ⟨boundary, packages, builds, hpolicy, fun name => ?_, fun name => ?_⟩
  · rw [hpolicy]
    simp only [Policy.withDiscovered, StringSet.mem_union, hpackages, policy, StringSet.mem_ofList]
  · rw [hpolicy]
    simp only [Policy.withDiscovered, policy, StringSet.mem_ofList]

/-- A file that says the same in another order has the same boundary. -/
theorem Alike.exists_same {other : PolicyFile} (alike : Alike file other source)
    (discovers : file.discover = true)
    (opens : openAll system.files (file.isolatedArchives source) = .ok opened)
    (parent : LoaderRef) (registry : Registry) {boundary : Boundary}
    (included : ∀ name, name ∈ boundary.policy.included ↔
      name ∈ file.includes ∨ IsPackage system.files opened file.ignores name)
    (excluded : ∀ name, name ∈ boundary.policy.excluded ↔ name ∈ file.excludes) :
    ∃ same, system.Builds (other.policy source) parent registry same ∧
      same.policy.included = boundary.policy.included ∧
      same.policy.excluded = boundary.policy.excluded ∧
      ∀ symbol, same.policy.route symbol = boundary.policy.route symbol := by
  obtain ⟨others, hothers⟩ : ∃ others,
      openAll system.files (other.isolatedArchives source) = .ok others :=
    exists_mapM_iff.2 fun archive harchive =>
      exists_mapM_iff.1 ⟨opened, opens⟩ archive ((alike.archives archive).1 harchive)
  -- which packages there are is a matter of which archives there are, and a set has one form
  have hopened (archive : OpenArchive) : archive ∈ others ↔ archive ∈ opened := by
    simp only [mem_of_mapM hothers, mem_of_mapM opens, alike.archives]
  obtain ⟨same, -, builds, -, hincluded, hexcluded⟩ :=
    other.exists_discovering (alike.discover.trans discovers) hothers parent registry
  have hsame : same.policy.included = boundary.policy.included := StringSet.ext_mem fun name => by
    rw [hincluded, included, alike.includes, isPackage_congr hopened alike.ignores]
  have hsame' : same.policy.excluded = boundary.policy.excluded := StringSet.ext_mem fun name => by
    rw [hexcluded, excluded, alike.excludes]
  refine ⟨same, builds, hsame, hsame', fun symbol => ?_⟩
  rw [Policy.route, Policy.route, hsame, hsame']

/-- The boundary of a policy file with discovery. If its archives open then it is built. It includes
what is written and the packages of the archives that are not ignored, and excludes what is written;
nothing of either is empty. The units of these packages are isolated, or excluded if an excluded
name fits. Without discovery there is a boundary as well, and the only symbols with other routes are
isolated with discovery and delegated without. Of another file that says the same in another order
there is a boundary that does the same. -/
theorem boundary_discovers (system : System) (accepted : file.Accepted)
    (discovers : file.discover = true)
    (opens : openAll system.files (file.isolatedArchives source) = .ok opened)
    (parent : LoaderRef) (registry : Registry) :
    ∃ boundary, system.Builds (file.policy source) parent registry boundary ∧
      (∀ name, name ∈ boundary.policy.included ↔
        name ∈ file.includes ∨ IsPackage system.files opened file.ignores name) ∧
      (∀ name, name ∈ boundary.policy.excluded ↔ name ∈ file.excludes) ∧
      "" ∉ boundary.policy.included ∧ "" ∉ boundary.policy.excluded ∧
      (∀ directory stem, ListsUnit system.files opened directory stem →
        IsPackage system.files opened file.ignores (Symbol.ofPath directory) →
          boundary.policy.route (Symbol.ofPath (Symbol.unitFile directory stem)) =
            if Symbol.matchesAny (Symbol.ofPath (Symbol.unitFile directory stem)) file.excludes
            then .excluded else .isolated) ∧
      (∃ plain, system.Builds { file.policy source with discover := false } parent registry plain ∧
        plain.policy = { file.policy source with discover := false } ∧
        ∀ symbol, boundary.policy.route symbol = plain.policy.route symbol ∨
          plain.policy.route symbol = .delegated ∧ boundary.policy.route symbol = .isolated) ∧
      ∀ other, Alike file other source →
        ∃ same, system.Builds (other.policy source) parent registry same ∧
          same.policy.included = boundary.policy.included ∧
          same.policy.excluded = boundary.policy.excluded ∧
          ∀ symbol, same.policy.route symbol = boundary.policy.route symbol := by
  obtain ⟨boundary, packages, builds, hpolicy, included, excluded⟩ :=
    file.exists_discovering discovers opens parent registry
  refine ⟨boundary, builds, included, excluded, ?_, ?_, ?_, ?_, ?_⟩
  · rw [included]
    rintro (hwritten | package)
    · exact accepted.ne_empty (by simp [hwritten]) rfl
    · exact package.ne_empty rfl
  · rw [excluded]
    exact fun hwritten => accepted.ne_empty (by simp [hwritten]) rfl
  · intro directory stem listed package
    rw [Policy.route_unitFile package.ne_empty ((included _).2 (.inr package)),
      Symbol.matchesAny_congr fun start => StringSet.mem_toList.trans (excluded start)]
  · -- without discovery the policy is gone by as it is written
    have goes : System.effectivePolicy system.files { file.policy source with discover := false } =
        .ok { file.policy source with discover := false } := rfl
    obtain ⟨plain, hbuilds, hplain⟩ := system.exists_builds parent registry goes opens
    refine ⟨plain, hbuilds, hplain, fun symbol => ?_⟩
    have hroute : plain.policy.route symbol = (file.policy source).route symbol := by
      rw [hplain]
      rfl
    rw [hroute, hpolicy, Policy.route_withDiscovered]
    split
    · next h => exact .inr ⟨h.1, rfl⟩
    · exact .inl rfl
  · exact fun other alike => alike.exists_same discovers opens parent registry included excluded

end PolicyFile

/-- A directory with a unit file in a package, one with a dot in its name at the top, and one with
nothing in front of its suffix. -/
def topFiles : FileSystem where
  root := .directory [("lib", .directory
    [("a.b.unit", .file [120]), ("pkg", .directory [("X.unit", .file [121])]),
      ("x", .directory [("y", .directory [(".unit", .file [122])])])])]
  working := []

theorem wellFormed_topFiles : topFiles.WellFormed where
  root := by
    have single {name : String} {tree : FileTree} (h : tree.WellFormed) (named : Path.IsName name) :
        (FileTree.directory [(name, tree)]).WellFormed :=
      .directory (List.pairwise_singleton _ _) (by simpa using named) (by simpa using h)
    have hpackage := single (.file [121]) (show Path.IsName "X.unit" by decide)
    have hempty := single (single (.file [122]) (show Path.IsName ".unit" by decide))
      (show Path.IsName "y" by decide)
    refine single (.directory ?_ (by decide) ?_) (by decide)
    · simp only [Fields.Ordered, List.pairwise_cons]
      decide
    · simpa using ⟨.file [120], hpackage, hempty⟩
  working := by decide

theorem listsUnit_topFiles : ListsUnit topFiles [.directory "lib"] "pkg" "X" :=
  ⟨by decide, .directory "lib", List.mem_singleton_self _, _, rfl, by with_unfolding_all rfl⟩

/-- A policy file with a name that is written and one that is ignored. -/
def discoveringLib : PolicyFile :=
  { includes := ["app"], discover := true, ignores := ["meta"]
    archives := [{ path := "lib", kind := some .dir }] }

/-- The files with a host that serves the directory. -/
def topHosted : System :=
  (({ files := topFiles } : System).makeHost [.directory "lib"] .empty processStore).2

/-- Below the host, the package that is found in the directory is included, and its unit is
isolated. -/
theorem boundary_discovers_package : (∃ host, topHosted.loaders.get? 0 = some (.host host)) ∧
    ∃ boundary, topHosted.Builds (discoveringLib.policy topFiles) 0 .empty boundary ∧
      "pkg" ∈ boundary.policy.included ∧ boundary.policy.route "pkg.X" = .isolated := by
  have accepted : discoveringLib.Accepted := ⟨by decide, by decide⟩
  have opens : openAll topHosted.files (discoveringLib.isolatedArchives topFiles) =
      .ok [.directory "lib"] := rfl
  obtain ⟨boundary, builds, included, -, -, -, routes, -⟩ :=
    PolicyFile.boundary_discovers topHosted accepted rfl opens 0 .empty
  have package : IsPackage topFiles [.directory "lib"] ["meta"] "pkg" :=
    ⟨by decide, by decide, "pkg", "X", listsUnit_topFiles, by decide⟩
  have hroute := routes "pkg" "X" listsUnit_topFiles package
  exact ⟨⟨_, rfl⟩, boundary, builds, (included "pkg").2 (.inr package), hroute⟩

/-! ### Units and their packages -/

/-- Every unit that is reported is a unit file that some archive lists. If such a file lies in a
directory whose name is not empty, then that name is reported as a package, and the name of the unit
is it or goes on behind it with a delimiter; it is the same only if nothing that counts stands in
front of the suffix. A boundary that discovers the packages isolates the unit, unless it is
excluded. -/
theorem units_in_packages (reported : scan files archives [] .units = .ok names) :
    ∃ opened packages, openAll files archives = .ok opened ∧
      scan files archives [] .packages = .ok packages ∧
      (∀ name ∈ names, ∃ archive ∈ opened, ∃ path, archive.Lists files path ∧
        Symbol.isUnitFile path = true ∧ Symbol.ofPath path = name) ∧
      ∀ directory stem, ListsUnit files opened directory stem → Symbol.ofPath directory ≠ "" →
        Symbol.ofPath (Symbol.unitFile directory stem) ∈ names ∧
        Symbol.ofPath directory ∈ packages ∧
        (Symbol.startsWith (Symbol.ofPath (Symbol.unitFile directory stem))
            (Symbol.ofPath directory ++ ".") = true ∨
          Symbol.ofPath (Symbol.unitFile directory stem) = Symbol.ofPath directory ∧
            ∀ c ∈ stem.toList, Symbol.ofSeparator c = Symbol.delimiter) ∧
        ∀ (system : System) (policy : Policy) (parent : LoaderRef) (registry : Registry),
          system.files = files → policy.archives = archives → policy.ignores = [] →
          policy.discover = true →
            ∃ boundary, system.Builds policy parent registry boundary ∧
              boundary.policy.route (Symbol.ofPath (Symbol.unitFile directory stem)) =
                if Symbol.matchesAny (Symbol.ofPath (Symbol.unitFile directory stem))
                  policy.excluded.toList then .excluded else .isolated := by
  obtain ⟨opened, opens, hnames⟩ := mem_scan reported
  obtain ⟨packages, found⟩ := exists_scan [] .packages opens
  refine ⟨opened, packages, opens, found, fun name hname => ?_, ?_⟩
  · obtain ⟨archive, harchive, path, listed, hunit, hpath, -⟩ := (hnames name).1 hname
    exact ⟨archive, harchive, path, listed, hunit, Option.some.inj hpath⟩
  intro directory stem listed named
  have package : IsPackage files opened [] (Symbol.ofPath directory) :=
    ⟨named, rfl, directory, stem, listed, rfl⟩
  refine ⟨?_, (mem_scan_packages found opens).2 package,
    (Symbol.ofPath_unitFile named stem).symm, ?_⟩
  · obtain ⟨-, archive, harchive, hlists⟩ := listed
    exact (hnames _).2 ⟨archive, harchive, _, hlists, Symbol.isUnitFile_unitFile directory stem,
      rfl, Symbol.ofPath_unitFile_ne_empty named stem, rfl⟩
  · rintro system policy parent registry rfl rfl ignores discovers
    obtain ⟨packages, goes, hpackages⟩ := System.exists_effectivePolicy policy discovers opens
    obtain ⟨boundary, builds, hpolicy⟩ := system.exists_builds parent registry goes opens
    have included : Symbol.ofPath directory ∈ boundary.policy.included := by
      rw [hpolicy]
      exact StringSet.mem_union.2 (.inr ((hpackages _).2 (ignores ▸ package)))
    refine ⟨boundary, builds, ?_⟩
    rw [Policy.route_unitFile named included, hpolicy]
    rfl

theorem scan_units_topFiles : scan topFiles [.directory "lib"] [] .units =
    .ok (StringSet.ofList ["a.b", "pkg.X", "x.y"]) := by
  with_unfolding_all rfl

theorem scan_packages_topFiles : scan topFiles [.directory "lib"] [] .packages =
    .ok (StringSet.ofList ["pkg", "x.y"]) := by
  with_unfolding_all rfl

/-- The unit in a package goes on behind it. -/
theorem units_in_packages_package :
    ∃ packages, scan topFiles [.directory "lib"] [] .packages = .ok packages ∧
      "pkg" ∈ packages ∧ Symbol.startsWith "pkg.X" "pkg." = true := by
  obtain ⟨opened, packages, opens, found, -, units⟩ := units_in_packages scan_units_topFiles
  obtain rfl : [OpenArchive.directory "lib"] = opened := Except.ok.inj opens
  obtain ⟨-, package, hstarts, -⟩ := units "pkg" "X" listsUnit_topFiles (by decide)
  exact ⟨packages, found, package, hstarts.resolve_right fun h => absurd h.1 (by decide)⟩

/-- A unit at the top whose name has a dot goes on behind no package, and neither does one whose
name is that of its directory. -/
theorem units_not_in_packages :
    (¬ ∀ (files : FileSystem) (archives : List Archive) (names packages : StringSet),
      files.WellFormed → scan files archives [] .units = .ok names →
        scan files archives [] .packages = .ok packages →
          ∀ name ∈ names, '.' ∈ name.toList →
            ∃ package ∈ packages, Symbol.startsWith name (package ++ ".") = true) ∧
    ¬ ∀ (files : FileSystem) (archives : List Archive) (opened : List OpenArchive)
      (packages : StringSet) (directory stem : String),
      files.WellFormed → openAll files archives = .ok opened →
        scan files archives [] .packages = .ok packages →
          ListsUnit files opened directory stem → Symbol.ofPath directory ≠ "" →
            '.' ∈ (Symbol.ofPath (Symbol.unitFile directory stem)).toList →
              ∃ package ∈ packages,
                Symbol.startsWith (Symbol.ofPath (Symbol.unitFile directory stem))
                  (package ++ ".") = true := by
  have hnone {name package : String} (h : package ∈ StringSet.ofList ["pkg", "x.y"])
      (hpkg : Symbol.startsWith name ("pkg" ++ ".") = false)
      (hempty : Symbol.startsWith name ("x.y" ++ ".") = false) :
      Symbol.startsWith name (package ++ ".") ≠ true := by
    obtain rfl | rfl : package = "pkg" ∨ package = "x.y" := by
      simpa using StringSet.mem_ofList.1 h
    · exact ne_true_of_eq_false hpkg
    · exact ne_true_of_eq_false hempty
  constructor
  · intro h
    have reported : "a.b" ∈ StringSet.ofList ["a.b", "pkg.X", "x.y"] :=
      StringSet.mem_ofList.2 (by simp)
    obtain ⟨package, hpackage, hstarts⟩ := h topFiles [.directory "lib"] _ _ wellFormed_topFiles
      scan_units_topFiles scan_packages_topFiles "a.b" reported (by decide)
    exact hnone hpackage (by decide) (by decide) hstarts
  · intro h
    have listed : ListsUnit topFiles [.directory "lib"] "x/y" "" :=
      ⟨by decide, .directory "lib", List.mem_singleton_self _, _, rfl, by with_unfolding_all rfl⟩
    obtain ⟨package, hpackage, hstarts⟩ := h topFiles [.directory "lib"] [.directory "lib"] _ "x/y"
      "" wellFormed_topFiles rfl scan_packages_topFiles listed (by decide) (by decide)
    exact hnone hpackage (by decide) (by decide) hstarts

end Isolation
