import Mathlib.Logic.Function.Iterate
import Isolation.Proofs.Archive.Scan

/-!
# Scans of several archives

Several archives are scanned side by side, each on its own, and what came of the scans is put
together in the order of the archives as soon as all of them have ended. So nothing depends on which
of them ends first. If all archives can be listed, what is found in one of them is found in all
together; otherwise the first one that cannot be listed decides.

## Main definitions

* `Archive.listed` — the entries of an archive that is opened to be listed
* `Scanning`, `advance` — scans that are under way side by side
* `scanSideBySide` — what comes of them, once all have ended

## Main results

* `Scanning.prospect_step`, `map_prospect_advance` — what comes of a scan does not change on its way
* `scanSideBySide_eq` — what comes of scans side by side
* `mem_scan_iff` — what is found in several archives
* `scan_unites` — the laws of scans
-/

namespace Isolation

variable {files : FileSystem} {archives : List Archive} {archive : Archive}
  {ignored : List String} {kind : ScanKind} {names : StringSet} {name : String}

/-- The entries of an archive that is opened to be listed. -/
def Archive.listed (files : FileSystem) (archive : Archive) :
    Except ArchiveError (StringMap EntryKind) := do
  (← archive.toOpen files).entries files

/-- The names that are found among some entries. -/
def namesAmong (ignored : List String) (kind : ScanKind) (kinds : StringMap EntryKind) :
    StringSet :=
  StringSet.ofList (kinds.toList.filterMap (found? ignored kind))

theorem scanArchive_eq (files : FileSystem) (ignored : List String) (kind : ScanKind)
    (archive : Archive) :
    scanArchive files ignored kind archive =
      (archive.listed files).map (namesAmong ignored kind) := by
  rw [scanArchive, Archive.listed]
  cases archive.toOpen files with
  | error error => rfl
  | ok opened => cases hkinds : opened.entries files <;> simp [bind, Except.bind, hkinds] <;> rfl

/-! ### Side by side -/

/-- The scan of one archive on its way. -/
inductive Scanning
  | opening (archive : Archive)
  | listing (opened : OpenArchive)
  | ended (outcome : Except ArchiveError StringSet)

namespace Scanning

/-- The next step of a scan: the archive is opened, and then it is listed. -/
def step (files : FileSystem) (ignored : List String) (kind : ScanKind) : Scanning → Scanning
  | opening archive =>
    match archive.toOpen files with
    | .error error => ended (.error error)
    | .ok opened => listing opened
  | listing opened => ended ((opened.entries files).map (namesAmong ignored kind))
  | ended outcome => ended outcome

/-- What came of a scan, if it has ended. -/
def outcome? : Scanning → Option (Except ArchiveError StringSet)
  | opening _ | listing _ => none
  | ended outcome => some outcome

/-- What is going to come of a scan. -/
def prospect (files : FileSystem) (ignored : List String) (kind : ScanKind) :
    Scanning → Except ArchiveError StringSet
  | opening archive => scanArchive files ignored kind archive
  | listing opened => (opened.entries files).map (namesAmong ignored kind)
  | ended outcome => outcome

variable {scanning : Scanning}

/-- What is going to come of a scan is the same after each step. -/
theorem prospect_step :
    (scanning.step files ignored kind).prospect files ignored kind =
      scanning.prospect files ignored kind := by
  cases scanning with
  | opening archive =>
    rw [step, prospect, scanArchive_eq, Archive.listed]
    cases archive.toOpen files with
    | error error => rfl
    | ok opened => rfl
  | listing opened => rfl
  | ended outcome => rfl

theorem prospect_of_outcome? {outcome : Except ArchiveError StringSet}
    (h : scanning.outcome? = some outcome) : scanning.prospect files ignored kind = outcome := by
  cases scanning with
  | opening | listing => cases h
  | ended => exact Option.some.inj h

/-- Two steps bring a scan to its end, and then it stays there. -/
theorem exists_iterate_step {n : Nat} (enough : 2 ≤ n) :
    ∃ outcome, (step files ignored kind)^[n] scanning = ended outcome := by
  obtain ⟨more, rfl⟩ := Nat.exists_eq_add_of_le' enough
  obtain ⟨outcome, htwo⟩ : ∃ outcome,
      step files ignored kind (step files ignored kind scanning) = ended outcome := by
    cases scanning with
    | opening archive =>
      rw [step]
      cases archive.toOpen files with
      | error error => exact ⟨_, rfl⟩
      | ok opened => exact ⟨_, rfl⟩
    | listing opened => exact ⟨_, rfl⟩
    | ended outcome => exact ⟨_, rfl⟩
  refine ⟨outcome, ?_⟩
  rw [Function.iterate_add_apply]
  exact (congrArg _ htwo).trans (Function.iterate_fixed rfl more)

end Scanning

/-- Scans that are under way side by side. A schedule tells by their numbers which of them takes the
next step. -/
def advance (files : FileSystem) (ignored : List String) (kind : ScanKind) (schedule : List Nat)
    (scans : List Scanning) : List Scanning :=
  schedule.foldl (fun scans i => scans.modify i (Scanning.step files ignored kind)) scans

/-- What comes of a scan of several archives side by side under a schedule; nothing as long as some
of them are under way. -/
def scanSideBySide (files : FileSystem) (archives : List Archive) (ignored : List String)
    (kind : ScanKind) (schedule : List Nat) : Option (Except ArchiveError StringSet) :=
  ((advance files ignored kind schedule (archives.map .opening)).mapM Scanning.outcome?).map gather

/-- What is going to come of the scans is the same all the way. -/
theorem map_prospect_advance (schedule : List Nat) (scans : List Scanning) :
    (advance files ignored kind schedule scans).map (Scanning.prospect files ignored kind) =
      scans.map (Scanning.prospect files ignored kind) := by
  -- a turn changes one scan, but not what is to come of it
  induction schedule generalizing scans with
  | nil => rfl
  | cons i schedule ih =>
    refine (ih _).trans (List.ext_getElem? fun j => ?_)
    rw [List.getElem?_map, List.getElem?_map, List.getElem?_modify]
    split
    · cases scans[j]? with
      | none => rfl
      | some scanning => exact congrArg some Scanning.prospect_step
    · cases scans[j]? <;> rfl

/-- Each scan takes as many steps as its number is in the schedule. -/
theorem getElem?_advance (schedule : List Nat) (scans : List Scanning) (j : Nat) :
    (advance files ignored kind schedule scans)[j]? =
      scans[j]?.map (Scanning.step files ignored kind)^[schedule.count j] := by
  induction schedule generalizing scans with
  | nil => simp [advance]
  | cons i schedule ih =>
    refine (ih _).trans ?_
    rw [List.getElem?_modify, List.count_cons]
    by_cases h : i = j
    · simp [h, Function.comp_def]
    · simp [h]

/-- Outcomes that are there are those that were to come. -/
theorem map_prospect_of_mapM {scans : List Scanning}
    {outcomes : List (Except ArchiveError StringSet)}
    (h : scans.mapM Scanning.outcome? = some outcomes) :
    scans.map (Scanning.prospect files ignored kind) = outcomes := by
  induction scans generalizing outcomes with
  | nil => exact Option.some.inj h
  | cons scanning scans ih =>
    rw [List.mapM_cons] at h
    obtain ⟨outcome, hfirst, h⟩ := Option.bind_eq_some_iff.1 h
    obtain ⟨others, hothers, h⟩ := Option.bind_eq_some_iff.1 h
    obtain rfl := Option.some.inj h
    rw [List.map_cons, ih hothers, Scanning.prospect_of_outcome? hfirst]

theorem exists_mapM_outcome? {scans : List Scanning}
    (h : ∀ scanning ∈ scans, ∃ outcome, scanning = .ended outcome) :
    ∃ outcomes, scans.mapM Scanning.outcome? = some outcomes := by
  induction scans with
  | nil => exact ⟨[], rfl⟩
  | cons scanning scans ih =>
    obtain ⟨⟨outcome, rfl⟩, hrest⟩ := List.forall_mem_cons.1 h
    obtain ⟨outcomes, houtcomes⟩ := ih hrest
    exact ⟨outcome :: outcomes, by simp [Scanning.outcome?, houtcomes]⟩

/-- Whatever comes of scans side by side is what comes of the scan. -/
theorem eq_scan_of_scanSideBySide {schedule : List Nat} {answer : Except ArchiveError StringSet}
    (h : scanSideBySide files archives ignored kind schedule = some answer) :
    answer = scan files archives ignored kind := by
  obtain ⟨outcomes, houtcomes, rfl⟩ := Option.map_eq_some_iff.1 h
  rw [scan_eq_gather, ← map_prospect_of_mapM houtcomes, map_prospect_advance, List.map_map]
  rfl

/-- Something comes of them as soon as each could take its steps. -/
theorem scanSideBySide_eq {schedule : List Nat}
    (fair : ∀ i < archives.length, 2 ≤ schedule.count i) :
    scanSideBySide files archives ignored kind schedule =
      some (scan files archives ignored kind) := by
  obtain ⟨outcomes, houtcomes⟩ : ∃ outcomes,
      (advance files ignored kind schedule (archives.map .opening)).mapM Scanning.outcome? =
        some outcomes := by
    refine exists_mapM_outcome? fun scanning hscanning => ?_
    obtain ⟨i, hi⟩ := List.mem_iff_getElem?.1 hscanning
    rw [getElem?_advance, List.getElem?_map] at hi
    obtain ⟨_, hstart, rfl⟩ := Option.map_eq_some_iff.1 hi
    obtain ⟨archive, harchive, rfl⟩ := Option.map_eq_some_iff.1 hstart
    exact Scanning.exists_iterate_step (fair i (List.getElem?_eq_some_iff.1 harchive).1)
  have hanswer : scanSideBySide files archives ignored kind schedule = some (gather outcomes) := by
    rw [scanSideBySide, houtcomes, Option.map_some]
  rw [hanswer, eq_scan_of_scanSideBySide hanswer]

/-! ### What is found together -/

/-- A scan succeeds if and only if all archives can be opened and listed. -/
theorem exists_scan_iff :
    (∃ names, scan files archives ignored kind = .ok names) ↔
      ∀ archive ∈ archives, ∃ kinds, archive.listed files = .ok kinds := by
  have hone (archive : Archive) : (∃ set, scanArchive files ignored kind archive = .ok set) ↔
      ∃ kinds, archive.listed files = .ok kinds := by
    rw [scanArchive_eq]
    cases archive.listed files <;> simp [Except.map]
  simp only [← hone, ← exists_mapM_iff, scan_eq]
  cases archives.mapM (scanArchive files ignored kind) <;> simp [Except.map]

/-- What is found in several archives is found in one of them. -/
theorem mem_scan_iff (h : scan files archives ignored kind = .ok names) :
    name ∈ names ↔ ∃ archive ∈ archives, ∃ single,
      scan files [archive] ignored kind = .ok single ∧ name ∈ single := by
  rw [scan_eq] at h
  obtain ⟨sets, hsets, rfl⟩ := map_eq_ok h
  rw [StringSet.mem_foldl_union, or_iff_right (StringSet.not_mem_empty name)]
  constructor
  · rintro ⟨set, hset, hname⟩
    obtain ⟨archive, harchive, hscan⟩ := (mem_of_mapM hsets).1 hset
    exact ⟨archive, harchive, set, hscan, hname⟩
  · rintro ⟨archive, harchive, set, hscan, hname⟩
    exact ⟨set, (mem_of_mapM hsets).2 ⟨archive, harchive, hscan⟩, hname⟩

/-- In which order the archives are given does not matter, nor whether some are repeated. -/
theorem scan_congr {others : List Archive} (h : scan files archives ignored kind = .ok names)
    (same : ∀ archive, archive ∈ others ↔ archive ∈ archives) :
    scan files others ignored kind = .ok names := by
  have listed := exists_scan_iff.1 ⟨names, h⟩
  obtain ⟨names', h'⟩ : ∃ names', scan files others ignored kind = .ok names' :=
    exists_scan_iff.2 fun archive harchive => listed archive ((same archive).1 harchive)
  rw [h']
  -- both succeed, and sets with the same members are equal
  refine congrArg _ (StringSet.ext_mem fun name => ?_)
  simp only [mem_scan_iff h, mem_scan_iff h', same]

theorem matchesAny_append (starts more : List String) :
    Symbol.matchesAny name (starts ++ more) =
      (Symbol.matchesAny name starts || Symbol.matchesAny name more) :=
  List.any_append

theorem found?_append {more : List String} {entry : String × EntryKind} :
    found? (ignored ++ more) kind entry = some name ↔
      found? ignored kind entry = some name ∧ Symbol.matchesAny name more = false := by
  simp only [found?_eq_some, matchesAny_append, Bool.or_eq_false_iff, and_assoc]

/-- Ignoring more leaves what does not begin with it. -/
theorem exists_scan_append (h : scan files archives ignored kind = .ok names)
    (more : List String) :
    ∃ fewer, scan files archives (ignored ++ more) kind = .ok fewer ∧
      ∀ name, name ∈ fewer ↔ name ∈ names ∧ Symbol.matchesAny name more = false := by
  obtain ⟨fewer, hfewer⟩ : ∃ fewer, scan files archives (ignored ++ more) kind = .ok fewer :=
    exists_scan_iff.2 (exists_scan_iff.1 ⟨names, h⟩)
  have hone (archive : Archive) (name : String) :
      (∃ set, scan files [archive] (ignored ++ more) kind = .ok set ∧ name ∈ set) ↔
        (∃ set, scan files [archive] ignored kind = .ok set ∧ name ∈ set) ∧
          Symbol.matchesAny name more = false := by
    simp only [scan, scanArchive_eq]
    cases archive.listed files with
    | error error => simp [Except.map]
    | ok kinds =>
      simp only [Except.map, namesAmong, Except.ok.injEq, exists_eq_left', StringSet.mem_ofList,
        List.mem_filterMap, found?_append, ← and_assoc, exists_and_right]
  refine ⟨fewer, hfewer, fun name => ?_⟩
  simp only [mem_scan_iff hfewer, mem_scan_iff h, hone, ← and_assoc, exists_and_right]

/-- The first archive that cannot be listed decides what becomes of the scan. -/
theorem exists_of_scan_eq_error {error : ArchiveError}
    (h : scan files archives ignored kind = .error error) :
    ∃ before failing after, archives = before ++ failing :: after ∧
      (∀ earlier ∈ before, ∃ kinds, earlier.listed files = .ok kinds) ∧
      failing.listed files = .error error := by
  rw [scan_eq] at h
  obtain ⟨before, failing, after, rfl, hbefore, hfailing⟩ :=
    exists_of_mapM_eq_error (map_eq_error h)
  rw [scanArchive_eq] at hfailing
  refine ⟨before, failing, after, rfl, fun earlier hearlier => ?_, map_eq_error hfailing⟩
  obtain ⟨set, hset⟩ := hbefore earlier hearlier
  rw [scanArchive_eq] at hset
  obtain ⟨kinds, hkinds, -⟩ := map_eq_ok hset
  exact ⟨kinds, hkinds⟩

/-- The laws of scans. Whatever comes of scans side by side, in whatever order they take their
steps, is what comes of the scan, and something comes of them once each could take its steps; no
archive and a single one are no exceptions. If all archives can be opened and listed, the names
found are those that are found in one of the archives by itself, they are the same for archives in
another order or repeated, and ignoring some beginnings, or some more, leaves out the names that
begin with them. Otherwise the error is that of the first archive that cannot be listed, and nothing
else is answered. -/
theorem scan_unites (files : FileSystem) (archives : List Archive) (ignored : List String)
    (kind : ScanKind) :
    (∀ schedule,
      (∀ answer, scanSideBySide files archives ignored kind schedule = some answer →
        answer = scan files archives ignored kind) ∧
      ((∀ i < archives.length, 2 ≤ schedule.count i) →
        scanSideBySide files archives ignored kind schedule =
          some (scan files archives ignored kind))) ∧
    scan files archives ignored kind =
      gather (archives.map fun archive => scan files [archive] ignored kind) ∧
    ((∀ archive ∈ archives, ∃ kinds, archive.listed files = .ok kinds) →
      ∃ names, scan files archives ignored kind = .ok names ∧
        (∀ name, name ∈ names ↔ ∃ archive ∈ archives, ∃ single,
          scan files [archive] ignored kind = .ok single ∧ name ∈ single) ∧
        (∀ others : List Archive, (∀ archive, archive ∈ others ↔ archive ∈ archives) →
          scan files others ignored kind = .ok names) ∧
        (∃ all, scan files archives [] kind = .ok all ∧
          ∀ name, name ∈ names ↔ name ∈ all ∧ Symbol.matchesAny name ignored = false) ∧
        ∀ more, ∃ fewer, scan files archives (ignored ++ more) kind = .ok fewer ∧
          ∀ name, name ∈ fewer ↔ name ∈ names ∧ Symbol.matchesAny name more = false) ∧
    ((∃ archive ∈ archives, ∀ kinds, archive.listed files ≠ .ok kinds) →
      ∃ before failing after error, archives = before ++ failing :: after ∧
        (∀ earlier ∈ before, ∃ kinds, earlier.listed files = .ok kinds) ∧
        failing.listed files = .error error ∧
        scan files archives ignored kind = .error error) := by
  refine ⟨fun schedule => ⟨fun answer => eq_scan_of_scanSideBySide, scanSideBySide_eq⟩,
    scan_eq_gather files archives ignored kind, fun listed => ?_, ?_⟩
  · obtain ⟨names, hnames⟩ := exists_scan_iff.2 listed
    obtain ⟨all, hall⟩ : ∃ all, scan files archives [] kind = .ok all := exists_scan_iff.2 listed
    obtain ⟨names', hnames', hignored⟩ := exists_scan_append hall ignored
    obtain rfl : names' = names := Except.ok.inj (hnames'.symm.trans hnames)
    exact ⟨names', hnames, fun name => mem_scan_iff hnames, fun others => scan_congr hnames,
      ⟨all, hall, hignored⟩, exists_scan_append hnames⟩
  · rintro ⟨archive, harchive, failing⟩
    cases hscan : scan files archives ignored kind with
    | ok names =>
      obtain ⟨kinds, hkinds⟩ := exists_scan_iff.1 ⟨names, hscan⟩ archive harchive
      exact absurd hkinds (failing kinds)
    | error error =>
      obtain ⟨before, first, after, heq, hbefore, hfirst⟩ := exists_of_scan_eq_error hscan
      exact ⟨before, first, after, error, heq, hbefore, hfirst, rfl⟩

end Isolation
