import Isolation.Archive.Basic
import Isolation.Symbol
import Isolation.Zip.Container

/-!
# Opened archives

An archive is opened before it is listed and read. Of a zip container all bytes are held from then
on; a directory is looked at each time. The names that containers store are normalized to entry
paths by dropping slashes at the ends and dots in front.

## Main definitions

* `ArchiveError` — what can go wrong with an archive
* `OpenArchive`, `Archive.toOpen` — opened archives
* `OpenArchive.entries` — the entry paths of an archive, directories included
* `OpenArchive.read` — the data of a file
* `openAll`, `findUnit` — several archives, searched front to back
-/

namespace Isolation

/-- What can go wrong with an archive of a given label. -/
inductive ArchiveError
  | missing (label : String)
  | notDirectory (label : String)
  | malformed (label : String)
  | unwalkable (label : String)
  | damaged (label path : String)
  deriving DecidableEq, Repr

/-- The error as text; why a file or a container cannot be used is not told. -/
def ArchiveError.message : ArchiveError → String
  | missing label => "cannot open archive " ++ label ++ ": "
  | notDirectory label => "cannot open archive " ++ label ++ ": not a directory"
  | malformed label => "cannot read zip archive " ++ label ++ ": "
  | unwalkable label => "cannot walk archive " ++ label ++ ": "
  | damaged label path => "cannot read " ++ path ++ " from " ++ label ++ ": "

/-- What an entry path stands for. -/
inductive EntryKind
  | directory
  | file
  deriving DecidableEq, Repr

/-- Drops slashes at the end. -/
def trimSlashes (name : List Char) : List Char :=
  (name.reverse.dropWhile (· = '/')).reverse

/-- Drops slashes in front, each with or without a dot before it. -/
def dropFront : List Char → List Char
  | '.' :: '/' :: rest => dropFront rest
  | '/' :: rest => dropFront rest
  | name => name

/-- The entry path of a name that a container stores. -/
def entryPath (name : String) : String :=
  String.ofList (dropFront (trimSlashes name.toList))

/-- Whether a stored name ends with a slash, as those of directories do. -/
def endsWithSlash (name : String) : Bool := name.toList.getLast? = some '/'

/-- An opened archive. The names of a container are the entry paths of its files with the names that
are stored for them. -/
inductive OpenArchive
  | directory (path : String)
  | container (label : String) (content : Zip.Container) (names : StringMap String)

namespace OpenArchive

/-- How the archive is called. -/
def label : OpenArchive → String
  | directory path => path
  | container label _ _ => label

/-- The entry paths of stored names that stand for files; of two names with one entry path the first
counts. -/
def nameTable (stored : List String) : StringMap String :=
  stored.foldl (fun table name =>
    if endsWithSlash name ∨ entryPath name = "" ∨ table.contains (entryPath name) then table
    else table.insert (entryPath name) name) ∅

/-- An opened container. -/
def ofContainer (label : String) (content : Zip.Container) : OpenArchive :=
  container label content (nameTable content.names)

/-- An archive with all that it shows of itself, which is its label. -/
def describe (archive : OpenArchive) : String :=
  "OpenArchive \x7b label: " ++ Text.quote archive.label ++ " \x7d"

/-- The parts of an entry path before each of its slashes, the longest first. -/
def parents (path : List Char) : List (List Char) :=
  ((List.range path.length).filter fun i => path[i]? = some '/').reverse.map path.take

/-- Adds a stored name to the entry paths: the path itself, and the directories it lies in. What is
added last decides what a path stands for. -/
def addName (kinds : StringMap EntryKind) (name : String) : StringMap EntryKind :=
  let path := entryPath name
  if path = "" then kinds
  else
    let kind := if endsWithSlash name then .directory else .file
    (parents path.toList).foldl (fun kinds parent => kinds.insert (String.ofList parent) .directory)
      (kinds.insert path kind)

/-- The entry paths of an archive with what they stand for. A directory that is gone cannot be
walked, and in a file that took its place there is nothing. -/
def entries (files : FileSystem) : OpenArchive → Except ArchiveError (StringMap EntryKind)
  | directory path =>
    match files.find? path with
    | none => .error (.unwalkable path)
    | some tree =>
      .ok (StringMap.ofList (tree.listing.map fun item =>
        (item.1, if item.2 then .directory else .file)))
  | container _ content _ => .ok (content.names.foldl addName ∅)

/-- Drops slashes at both ends. -/
def trimPath (path : String) : String :=
  String.ofList (trimSlashes (path.toList.dropWhile (· = '/')))

/-- Whether a path stays below the place that it starts from: all its components are names. -/
def staysBelow (path : String) : Bool :=
  (Path.components path).all fun component =>
    match component with
    | .normal _ => true
    | _ => false

/-- The data of the file at an entry path; none if there is no such file. -/
def read (files : FileSystem) (archive : OpenArchive) (path : String) :
    Except ArchiveError (Option (List UInt8)) :=
  let path := trimPath path
  match archive with
  | directory root =>
    -- only plain names lead down; a path that climbs finds nothing, wherever it leads
    .ok (if staysBelow path then files.fileData? (Path.join root path) else none)
  | container label content names =>
    match (names.find? path).bind content.find? with
    | none => .ok none
    | some entry =>
      match content.read entry with
      | .ok data => .ok data
      | .error .unsupported => .error (.malformed label)
      | .error .damaged => .error (.damaged label path)

end OpenArchive

/-- An opened container from its bytes. -/
def openBytes (label : String) (bytes : List UInt8) : Except ArchiveError OpenArchive :=
  match Zip.Container.ofBytes? bytes with
  | some content => .ok (.ofContainer label content)
  | none => .error (.malformed label)

/-- Opens an archive. -/
def Archive.toOpen (files : FileSystem) : Archive → Except ArchiveError OpenArchive
  | .directory path =>
    match files.find? path with
    | none => .error (.missing path)
    | some (.file _) => .error (.notDirectory path)
    | some (.directory _) => .ok (.directory path)
  | .zip path =>
    match files.find? path with
    | none => .error (.missing path)
    | some (.directory _) => .error (.malformed path)
    | some (.file bytes) => openBytes path bytes
  | .memory label bytes => openBytes label bytes

/-- Opens several archives; the first that fails stops it. -/
def openAll (files : FileSystem) (archives : List Archive) :
    Except ArchiveError (List OpenArchive) :=
  archives.mapM (Archive.toOpen files)

/-- The data of a unit, with the archive and the entry path where it was found. -/
structure Located where
  archive : String
  path : String
  bytes : List UInt8
  deriving DecidableEq, Repr

/-- The first of several archives that holds a unit. -/
def findUnit (files : FileSystem) (archives : List OpenArchive) (symbol : String) :
    Except ArchiveError (Option Located) :=
  match archives with
  | [] => .ok none
  | archive :: rest =>
    match archive.read files (Symbol.toPath symbol) with
    | .error error => .error error
    | .ok (some bytes) => .ok (some ⟨archive.label, Symbol.toPath symbol, bytes⟩)
    | .ok none => findUnit files rest symbol

end Isolation
