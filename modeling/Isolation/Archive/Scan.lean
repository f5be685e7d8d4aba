import Isolation.Archive.Open

/-!
# Scanning archives

What units and packages archives hold. A package is the name of a directory in which a unit file
lies.

## Main definitions

* `ScanKind` — packages or units
* `scanArchive` — the names found in one archive
* `scan` — the names found in several archives
-/

namespace Isolation

/-- What a scan looks for. -/
inductive ScanKind
  | packages
  | units
  deriving DecidableEq, Repr

/-- The part of a path before its last slash. -/
def directoryOf? (path : String) : Option String :=
  match path.toList.reverse.dropWhile (· ≠ '/') with
  | [] => none
  | _ :: rest => some (String.ofList rest.reverse)

/-- The name that a unit file counts for; unit files at the top belong to no package. -/
def ScanKind.name? (kind : ScanKind) (path : String) : Option String :=
  match kind with
  | units => some (Symbol.ofPath path)
  | packages => (directoryOf? path).map Symbol.ofPath

/-- The name that an entry counts for, if it is a unit file whose name is not empty and begins with
none of the ignored ones. -/
def found? (ignored : List String) (kind : ScanKind) (entry : String × EntryKind) : Option String :=
  if entry.2 = .file ∧ Symbol.isUnitFile entry.1 then
    (kind.name? entry.1).filter fun name => name ≠ "" && !Symbol.matchesAny name ignored
  else none

/-- The names found in one archive. -/
def scanArchive (files : FileSystem) (ignored : List String) (kind : ScanKind) (archive : Archive) :
    Except ArchiveError StringSet := do
  let opened ← archive.toOpen files
  let entries ← opened.entries files
  return StringSet.ofList (entries.toList.filterMap (found? ignored kind))

/-- What came of several scans, put together in order: all names, or the first error. -/
def gather (outcomes : List (Except ArchiveError StringSet)) : Except ArchiveError StringSet :=
  outcomes.foldlM (fun names outcome => outcome.map names.union) ∅

/-- The names found in several archives. If some cannot be scanned, the first of them decides. -/
def scan (files : FileSystem) (archives : List Archive) (ignored : List String) (kind : ScanKind) :
    Except ArchiveError StringSet :=
  match archives with
  | [] => .ok ∅
  -- a single archive is scanned alone, and there is nothing to put together
  | [archive] => scanArchive files ignored kind archive
  | archives => gather (archives.map (scanArchive files ignored kind))

end Isolation
