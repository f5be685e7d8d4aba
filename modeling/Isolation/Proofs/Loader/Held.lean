import Isolation.Proofs.Loader.Exclusion

/-!
# Archives that are held open

Of a zip container all bytes are held once it is open, so that loaders that were built on containers
do not notice what becomes of the files. There is one exception: a boundary opens its search path
only when its parent does not have a name for the first time, and what it finds there then is what
the files are by then.

## Main definitions

* `Archive.IsContainer`, `Loaders.OnContainers` — archives that are held, and loaders on them
* `Loaders.Opens` — a boundary opens its search path in a request
* `System.replies` — the answers to all requests of a run
* `System.Undisturbed` — a search path that is opened in a run is found as it was before

## Main results

* `Loaders.Answers.of_files` — one request, with other files
* `System.replies_eq` — a run with other files
* `System.replies_undisturbed` — changes of files make no difference
-/

namespace Isolation

/-! ### Containers -/

/-- An archive of which all bytes are held once it is open. -/
def Archive.IsContainer : Archive → Prop
  | .directory _ => False
  | .zip _ | .memory _ _ => True

/-- What an opened container answers does not depend on the files. -/
theorem OpenArchive.OpenedFrom.read_eq {listed : List Archive} {archive : OpenArchive}
    (opened : archive.OpenedFrom listed) (containers : ∀ source ∈ listed, source.IsContainer)
    (files files' : FileSystem) (path : String) :
    archive.read files' path = archive.read files path := by
  obtain ⟨source, hsource, before, hopen⟩ := opened
  obtain ⟨root, entries, rfl, -, -⟩ | ⟨content, rfl⟩ := Archive.toOpen_cases hopen
  · exact (containers _ hsource).elim
  · rfl

variable {files files' : FileSystem} {symbol : String}

theorem findUnit_held {listed : List Archive} {archives : List OpenArchive}
    (containers : ∀ source ∈ listed, source.IsContainer)
    (opened : ∀ archive ∈ archives, archive.OpenedFrom listed) :
    findUnit files' archives symbol = findUnit files archives symbol := by
  induction archives with
  | nil => rfl
  | cons archive archives ih =>
    have hread := (opened archive List.mem_cons_self).read_eq containers files files'
      (Symbol.toPath symbol)
    rw [findUnit, findUnit, hread,
      ih fun other hother => opened other (List.mem_cons_of_mem _ hother)]

theorem materialize_held {listed : List Archive} {archives : List OpenArchive}
    (containers : ∀ source ∈ listed, source.IsContainer)
    (opened : ∀ archive ∈ archives, archive.OpenedFrom listed) (id : LoaderId)
    (registry : Registry) (serial : Nat) (cache : StringMap LoadedUnit) :
    materialize files' archives id registry symbol serial cache =
      materialize files archives id registry symbol serial cache := by
  rw [materialize, materialize, findUnit_held containers opened]

/-! ### Loaders on containers -/

/-- A loader reaches containers only; what a host has open was opened from its own archives. -/
structure Loader.OnContainers (loader : Loader) : Prop where
  archives : ∀ archive ∈ loader.archives, archive.IsContainer
  opened : ∀ host, loader = .host host → ∀ archive ∈ host.opened, archive.OpenedFrom host.archives

theorem Loader.OnContainers.of_frame {loader loader' : Loader} (on : loader.OnContainers)
    (h : loader'.frame = loader.frame) : loader'.OnContainers where
  archives := archives_of_frame h ▸ on.archives
  opened host heq := by
    subst heq
    obtain ⟨old, rfl⟩ := exists_host_of_frame h.symm
    injection h with h
    injection h with _ harchives hopened
    rw [harchives, hopened]
    exact on.opened old rfl

theorem Loader.OnContainers.close {loader : Loader} (on : loader.OnContainers) :
    loader.close.OnContainers := by
  cases loader with
  | boundary boundary => exact ⟨on.archives, nofun⟩
  | host | relay => exact on

/-- Whether a loader has nothing left to open. -/
def Loader.searchPathOpen : Loader → Bool
  | .boundary b => b.sets.all fun sets => sets.fallback.isSome
  | .host _ | .relay _ => true

namespace Loaders

variable {loaders after : Loaders} {ref : LoaderRef} {answer : Except ResolveError LoadedUnit}

/-- All loaders reach containers only. -/
def OnContainers (loaders : Loaders) : Prop :=
  ∀ ref loader, loaders.get? ref = some loader → loader.OnContainers

theorem onContainers_nil (empty : loaders.list = []) : loaders.OnContainers := by
  intro ref loader here
  cases (get?_nil empty ref).symm.trans here

theorem OnContainers.of_frame (on : loaders.OnContainers) (h : after.frame = loaders.frame) :
    after.OnContainers := by
  intro ref loader here
  obtain ⟨old, hold, hframe⟩ := exists_of_frame h.symm here
  exact (on ref old hold).of_frame hframe.symm

theorem OnContainers.extend {loader : Loader} (on : loaders.OnContainers)
    (new : loader.OnContainers) : (loaders.extend loader).OnContainers := by
  intro ref other here
  rw [get?_extend] at here
  split at here
  · cases here
    exact new
  · exact on ref other here

theorem OnContainers.close (on : loaders.OnContainers) : (loaders.close ref).OnContainers := by
  intro other loader here
  rw [get?_close] at here
  split at here
  · obtain ⟨old, hold, rfl⟩ := Option.map_eq_some_iff.1 here
    exact (on ref old hold).close
  · exact on other loader here

/-! ### One request -/

/-- In a request a boundary opens its search path: it is open, leaves the name to its parent, which
does not have it, and has not opened its search path before. It is asked itself or stands between
the loader that is asked and the host. -/
inductive Opens (files : FileSystem) (symbol : String) (loaders : Loaders) :
    LoaderRef → Boundary → Prop
  | opens {ref boundary sets missing after} (here : loaders.get? ref = some (.boundary boundary))
      (unshut : boundary.sets = some sets) (unopened : sets.fallback = none)
      (route : boundary.policy.route symbol = .delegated)
      (unknown : boundary.cache.find? symbol = none)
      (asked : Answers files symbol loaders boundary.parent (.error (.notFound missing)) after) :
      Opens files symbol loaders ref boundary
  | excluded {ref boundary sets opening} (here : loaders.get? ref = some (.boundary boundary))
      (unshut : boundary.sets = some sets) (route : boundary.policy.route symbol = .excluded)
      (above : Opens files symbol loaders boundary.parent opening) :
      Opens files symbol loaders ref opening
  | delegated {ref boundary sets opening} (here : loaders.get? ref = some (.boundary boundary))
      (unshut : boundary.sets = some sets) (route : boundary.policy.route symbol = .delegated)
      (unknown : boundary.cache.find? symbol = none)
      (above : Opens files symbol loaders boundary.parent opening) :
      Opens files symbol loaders ref opening

/-- The search path of a boundary, if it is either open or found alike. -/
theorem openFallback_alike {boundary : Boundary} {sets : OpenSets}
    (alike : sets.fallback = none →
      openAll files' boundary.searchPath = openAll files boundary.searchPath) :
    boundary.openFallback files' sets = boundary.openFallback files sets := by
  rw [Boundary.openFallback, Boundary.openFallback]
  cases hsets : sets.fallback with
  | none => exact alike hsets
  | some opened => rfl

/-- With other files a request has the same answer and leaves the same loaders, provided that the
search paths which it opens are found alike. -/
theorem Answers.of_files (on : loaders.OnContainers) (sourced : loaders.Sourced)
    (h : Answers files symbol loaders ref answer after)
    (alike : ∀ boundary, Opens files symbol loaders ref boundary →
      openAll files' boundary.searchPath = openAll files boundary.searchPath) :
    Answers files' symbol loaders ref answer after := by
  -- the induction is on the rules: searches go through containers that are open
  induction h with
  | hostKnown here known => exact .hostKnown here known
  | @hostSearch ref host answer cache serial here unknown search =>
    have on := on ref _ here
    refine .hostSearch here unknown ?_
    rw [materialize_held on.archives (on.opened host rfl), search]
  | closed here shut => exact .closed here shut
  | known here unshut route known => exact .known here unshut route known
  | @isolated ref boundary sets answer cache serial here unshut route unknown search =>
    have on := on ref _ here
    refine .isolated here unshut route unknown ?_
    rw [materialize_held on.archives ((sourced ref boundary here).isolated sets unshut), search]
  | excluded here unshut route asked ih =>
    exact .excluded here unshut route
      (ih fun b above => alike b (.excluded here unshut route above))
  | delegated here unshut route unknown asked answered ih =>
    exact .delegated here unshut route unknown
      (ih fun b above => alike b (.delegated here unshut route unknown above)) answered
  | @unopened ref boundary sets missing after error here unshut route unknown asked failed ih =>
    refine .unopened here unshut route unknown
      (ih fun b above => alike b (.delegated here unshut route unknown above)) ?_
    rw [← failed]
    exact openFallback_alike fun unopened =>
      alike boundary (.opens here unshut unopened route unknown asked)
  | @fallback ref boundary sets missing after opened answer cache serial here unshut route unknown
      asked opens search ih =>
    have on := on ref _ here
    have hopened := openedFrom_of_openFallback (sourced ref boundary here) unshut opens
    refine .fallback here unshut route unknown
      (ih fun b above => alike b (.delegated here unshut route unknown above)) ?_ ?_
    · rw [← opens]
      exact openFallback_alike fun unopened =>
        alike boundary (.opens here unshut unopened route unknown asked)
    · rw [materialize_held on.archives hopened, search]

/-- So the request is the same for all that it leaves behind. -/
theorem resolve_of_files (layered : loaders.Layered) (on : loaders.OnContainers)
    (sourced : loaders.Sourced)
    (alike : ∀ boundary, Opens files symbol loaders ref boundary →
      openAll files' boundary.searchPath = openAll files boundary.searchPath) :
    loaders.resolve files' symbol ref = loaders.resolve files symbol ref := by
  by_cases href : ref < loaders.list.length
  · obtain ⟨answer, after, hresolve, answers⟩ := layered.answers files symbol href
    rw [hresolve]
    exact (answers.of_files on sourced alike).resolve_eq layered
  · rw [resolve, resolve, get?_eq_none href]

/-! ### Search paths that are open -/

/-- All boundaries that are open have opened their search paths. -/
def SearchPathsOpen (loaders : Loaders) : Prop :=
  ∀ loader ∈ loaders.list, loader.searchPathOpen = true

theorem SearchPathsOpen.not_opens {boundary : Boundary} (allOpen : loaders.SearchPathsOpen) :
    ¬ Opens files symbol loaders ref boundary := by
  intro opens
  induction opens with
  | opens here unshut unopened =>
    have hopen := allOpen _ (List.mem_of_getElem? here)
    simp [Loader.searchPathOpen, unshut, unopened] at hopen
  | excluded _ _ _ _ ih | delegated _ _ _ _ _ ih => exact ih

theorem SearchPathsOpen.set {loader : Loader} {nextSerial : Nat} (allOpen : loaders.SearchPathsOpen)
    (new : loader.searchPathOpen = true) :
    SearchPathsOpen { loaders.set ref loader with nextSerial } := by
  intro other hother
  obtain hold | rfl := List.mem_or_eq_of_mem_set hother
  · exact allOpen other hold
  · exact new

theorem SearchPathsOpen.answers (allOpen : loaders.SearchPathsOpen)
    (h : Answers files symbol loaders ref answer after) : after.SearchPathsOpen := by
  induction h with
  | hostKnown | closed | known => exact allOpen
  | hostSearch => exact allOpen.set rfl
  | @isolated ref boundary sets answer cache serial here =>
    have hopen : (Loader.boundary boundary).searchPathOpen = true :=
      allOpen _ (List.mem_of_getElem? here)
    exact allOpen.set hopen
  | excluded _ _ _ _ ih => exact ih
  | delegated _ _ _ _ _ _ ih => exact ih
  | unopened _ _ _ _ _ _ ih => exact ih
  | fallback _ _ _ _ _ _ _ ih => exact ih.set rfl

theorem SearchPathsOpen.close (allOpen : loaders.SearchPathsOpen) :
    (loaders.close ref).SearchPathsOpen := by
  rw [Loaders.close]
  split
  · next loader here =>
    have hopen := allOpen loader (List.mem_of_getElem? here)
    refine allOpen.set ?_
    cases loader with
    | boundary boundary => rfl
    | host | relay => exact hopen
  · exact allOpen

end Loaders

/-! ### Runs -/

open Loaders

namespace Operation

/-- Whether an operation changes files. -/
def changesFiles : Operation → Bool
  | changeFiles _ => true
  | host .. | boundary .. | request .. | close _ => false

/-- Whether an operation builds a loader. -/
def builds : Operation → Bool
  | host .. | boundary .. => true
  | request .. | close _ | changeFiles _ => false

/-- What is built is built on containers. -/
def OnContainers : Operation → Prop
  | host archives _ _ => ∀ archive ∈ archives, archive.IsContainer
  | boundary policy _ _ => ∀ archive ∈ policy.archives, archive.IsContainer
  | request .. | close _ | changeFiles _ => True

end Operation

namespace System

variable {operation : Operation} {operations : List Operation} {system : System}

/-- The answers to all requests of a run, in their order. -/
def replies : List Operation → System → List (Attempt (Except ResolveError LoadedUnit))
  | [], _ => []
  | operation :: rest, system =>
    match operation with
    | .request ref symbol =>
      (system.resolve ref symbol).1 :: replies rest (operation.perform system)
    | _ => replies rest (operation.perform system)

/-- Whenever a boundary opens its search path in a run, it finds there what it would find in given
files: all archives open, and hold the same, or the same one fails to open. -/
def Undisturbed (files : FileSystem) : List Operation → System → Prop
  | [], _ => True
  | operation :: rest, system =>
    (∀ ref symbol boundary, operation = .request ref symbol →
      system.loaders.Opens system.files symbol ref boundary →
      openAll system.files boundary.searchPath = openAll files boundary.searchPath) ∧
    Undisturbed files rest (operation.perform system)

/-- Whatever is done on containers, all loaders reach containers only. -/
theorem perform_onContainers (layered : system.loaders.Layered)
    (on : system.loaders.OnContainers) (contained : operation.OnContainers) :
    (operation.perform system).loaders.OnContainers := by
  cases operation with
  | host archives registry context =>
    rw [Operation.perform, makeHost]
    cases opens : openAll system.files archives with
    | error error => exact on
    | ok opened =>
      refine OnContainers.extend on ⟨contained, fun host heq => ?_⟩
      cases heq
      exact openedFrom_of_openAll opens
  | boundary policy parent registry =>
    rw [Operation.perform]
    split
    · obtain ⟨error, hmake⟩ | ⟨effective, isolated, context, stores, goes, -, -, hmake⟩ :=
        system.makeBoundary_cases policy parent registry
      · rw [hmake]
        exact on
      · rw [hmake]
        refine OnContainers.extend on ⟨fun archive harchive => ?_, fun host heq => ?_⟩
        · obtain hown | habove := List.mem_append.1 harchive
          · exact contained archive (archives_of_effectivePolicy goes ▸ hown)
          · cases here : system.loaders.get? parent with
            | none =>
              rw [here] at habove
              cases habove
            | some above =>
              rw [here] at habove
              exact (on parent above here).archives archive habove
        · cases heq
    · exact on
  | request ref symbol => exact on.of_frame (resolve_frame layered ref symbol)
  | close ref => exact on.close
  | changeFiles files => exact on

/-- A run after which the files are others gives the same answers as long as it is undisturbed. -/
theorem replies_eq {touched : FileSystem} (layered : system.loaders.Layered)
    (on : system.loaders.OnContainers) (sourced : system.loaders.Sourced)
    (standing : ∀ operation ∈ operations, operation.builds = false)
    (undisturbed : Undisturbed system.files operations { system with files := touched }) :
    replies operations { system with files := touched } =
      replies (operations.filter fun operation => !operation.changesFiles) system := by
  -- the induction is on the run; both systems have the same loaders all the time
  induction operations generalizing system touched with
  | nil => rfl
  | cons operation rest ih =>
    obtain ⟨alike, undisturbed⟩ := undisturbed
    have standing' := fun other hother => standing other (List.mem_cons_of_mem operation hother)
    cases operation with
    | host | boundary => cases standing _ List.mem_cons_self
    | changeFiles files => exact ih layered on sourced standing' undisturbed
    | close ref =>
      have layered' := (Operation.close ref).perform_layered layered
      exact ih layered' on.close (Operation.perform_sourced layered sourced) standing' undisturbed
    | request ref symbol =>
      have hresolve : system.loaders.resolve touched symbol ref =
          system.loaders.resolve system.files symbol ref :=
        (resolve_of_files layered on sourced fun boundary opens =>
          (alike ref symbol boundary rfl opens).symm).symm
      have hperform : (Operation.request ref symbol).perform { system with files := touched } =
          { (Operation.request ref symbol).perform system with files := touched } := by
        simp only [Operation.perform, resolve, hresolve]
      have hreply : (resolve { system with files := touched } ref symbol).1 =
          (system.resolve ref symbol).1 := by
        simp only [resolve, hresolve]
      rw [hperform] at undisturbed
      have on' : ((Operation.request ref symbol).perform system).loaders.OnContainers :=
        perform_onContainers layered on trivial
      have hrest := ih ((Operation.request ref symbol).perform_layered layered) on'
        (Operation.perform_sourced layered sourced) standing' undisturbed
      simp only [replies, List.filter_cons, Operation.changesFiles, Bool.not_false, if_true, hreply,
        hperform, hrest]

/-- Loaders on containers do not notice what becomes of the files. Once they are built, all requests
are answered as if no file had been changed, unless a boundary opens its search path while an archive
on it is not what it was. -/
theorem replies_undisturbed {start : System} (empty : start.loaders.list = [])
    {earlier later : List Operation} (contained : ∀ operation ∈ earlier, operation.OnContainers)
    (standing : ∀ operation ∈ later, operation.builds = false)
    (undisturbed : Undisturbed (start.run earlier).files later (start.run earlier)) :
    replies later (start.run earlier) =
      replies (later.filter fun operation => !operation.changesFiles) (start.run earlier) := by
  have hstart : start.loaders.Layered ∧ start.loaders.OnContainers :=
    ⟨layered_nil empty, onContainers_nil empty⟩
  obtain ⟨layered, on⟩ : (start.run earlier).loaders.Layered ∧
      (start.run earlier).loaders.OnContainers :=
    run_invariant (P := fun system => system.loaders.Layered ∧ system.loaders.OnContainers) hstart
      fun operation hmem _ h =>
        ⟨operation.perform_layered h.1, perform_onContainers h.1 h.2 (contained operation hmem)⟩
  have sourced : (start.run earlier).loaders.Sourced :=
    run_sourced (layered_nil empty) (sourced_nil empty)
  exact replies_eq layered on sourced standing undisturbed

/-- Once all search paths are open, nothing disturbs a run. -/
theorem undisturbed_of_open (layered : system.loaders.Layered)
    (allOpen : system.loaders.SearchPathsOpen)
    (standing : ∀ operation ∈ operations, operation.builds = false) :
    Undisturbed files operations system := by
  induction operations generalizing system with
  | nil => trivial
  | cons operation rest ih =>
    have standing' := fun other hother => standing other (List.mem_cons_of_mem operation hother)
    refine ⟨fun _ _ _ _ opens => (allOpen.not_opens opens).elim, ?_⟩
    refine ih (operation.perform_layered layered) ?_ standing'
    cases operation with
    | host | boundary => cases standing _ List.mem_cons_self
    | request ref symbol =>
      rw [Operation.perform]
      obtain hsame | ⟨answer, answers⟩ := resolve_cases layered ref symbol
      · rw [hsame]
        exact allOpen
      · exact allOpen.answers answers
    | close ref => exact allOpen.close
    | changeFiles files => exact allOpen

/-! ### A container that is removed -/

/-- A container with one unit, which is empty. -/
def oneUnitZip : List UInt8 :=
  let name := Text.Utf8.encode "A.unit"
  [0x50, 0x4B, 0x03, 0x04] ++ List.replicate 22 0 ++ [6, 0, 0, 0] ++ name ++
    [0x50, 0x4B, 0x01, 0x02] ++ List.replicate 24 0 ++ [6] ++ List.replicate 17 0 ++ name ++
    [0x50, 0x4B, 0x05, 0x06, 0, 0, 0, 0, 1, 0, 1, 0, 0x34, 0, 0, 0, 0x24, 0, 0, 0, 0, 0]

/-- A file with this container. -/
def zipFile : System :=
  { files := { root := .directory [("lib.zip", .file oneUnitZip)], working := [] } }

/-- A host without archives, and a boundary on the file that leaves all names to it. -/
def hostAndZip : List Operation :=
  [.host [] .empty processStore, .boundary { archives := [.zip "lib.zip"] } 0 .empty]

theorem onContainers_hostAndZip : ∀ operation ∈ hostAndZip, operation.OnContainers := by
  simp [hostAndZip, Operation.OnContainers, Archive.IsContainer]

/-- The unit is found although the file is gone, since the search path was opened before. -/
theorem replies_undisturbed_removed :
    (∀ operation ∈ hostAndZip, operation.OnContainers) ∧
      Undisturbed (zipFile.run hostAndZip).files
        [.request 1 "Z", .changeFiles .empty, .request 1 "A"] (zipFile.run hostAndZip) ∧
      replies [.request 1 "Z", .changeFiles .empty, .request 1 "A"] (zipFile.run hostAndZip) =
        replies [.request 1 "Z", .request 1 "A"] (zipFile.run hostAndZip) ∧
      (replies [.request 1 "Z", .request 1 "A"] (zipFile.run hostAndZip)).map
        (fun reply => (unitOf? reply).map LoadedUnit.bytes) = [none, some []] := by
  have undisturbed : Undisturbed (zipFile.run hostAndZip).files
      [.request 1 "Z", .changeFiles .empty, .request 1 "A"] (zipFile.run hostAndZip) := by
    refine ⟨fun _ _ _ _ _ => rfl, undisturbed_of_open ?_ ?_ (by decide)⟩
    · have layered : zipFile.loaders.Layered := layered_nil rfl
      exact run_layered (hostAndZip ++ [.request 1 "Z"]) layered
    · unfold SearchPathsOpen
      decide +kernel
  exact ⟨onContainers_hostAndZip, undisturbed,
    replies_undisturbed rfl onContainers_hostAndZip (by decide) undisturbed, by decide +kernel⟩

/-- Without that the boundary finds nothing to open any more, and the answer is not what it would be
if the file were still there. -/
theorem replies_disturbed :
    (∀ operation ∈ hostAndZip, operation.OnContainers) ∧
      (zipFile.run hostAndZip).loaders.list.length = 2 ∧
      replies [.changeFiles .empty, .request 1 "A"] (zipFile.run hostAndZip) =
        [.done (.error (.archive (.missing "lib.zip")))] ∧
      ∃ unit, replies [.request 1 "A"] (zipFile.run hostAndZip) = [.done (.ok unit)] ∧
        unit.archive = "lib.zip" := by
  have herror : errorOf? (((zipFile.run hostAndZip).run [.changeFiles .empty]).resolve 1 "A").1 =
      some (.archive (.missing "lib.zip")) := by decide +kernel
  have hfound : (unitOf? ((zipFile.run hostAndZip).resolve 1 "A").1).map LoadedUnit.archive =
      some "lib.zip" := by decide +kernel
  obtain ⟨unit, hunit, harchive⟩ := Option.map_eq_some_iff.1 hfound
  refine ⟨onContainers_hostAndZip, by decide +kernel, ?_, unit, ?_, harchive⟩
  · exact congrArg (fun reply => [reply]) (eq_of_errorOf? herror)
  · exact congrArg (fun reply => [reply]) (eq_of_unitOf? hunit)

end System

end Isolation
