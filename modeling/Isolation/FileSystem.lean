import Isolation.Path
import Isolation.StringMap

/-!
# Files

The files that archives and policies are read from: a tree of directories and regular files, and the
directory that relative paths start from. There are no links and no special files, every name is
text, and whatever there is can be read.

## Main definitions

* `FileTree` — a file, or a directory with all below it
* `FileSystem` — the tree from its root, and the working directory
* `FileSystem.find?` — what lies at a path
* `FileTree.listing` — all that lies below a directory
* `FileSystem.write`, `FileSystem.remove`
-/

namespace Isolation

/-- A regular file, or a directory with its entries in ascending order of their names. -/
inductive FileTree
  | file (data : List UInt8)
  | directory (entries : List (String × FileTree))
  deriving Inhabited, Repr

namespace FileTree

/-- Whether it is a directory. -/
def isDirectory : FileTree → Bool
  | directory _ => true
  | file _ => false

/-- The entry of a name. -/
def child? (tree : FileTree) (name : String) : Option FileTree :=
  match tree with
  | directory entries => Fields.find? name entries
  | file _ => none

/-- What lies below by a list of names. -/
def descend? (tree : FileTree) : List String → Option FileTree
  | [] => some tree
  | name :: names => (tree.child? name).bind fun child => child.descend? names

mutual

/-- All that lies below, with its path from here and whether it is a directory. -/
def listing : FileTree → List (String × Bool)
  | file _ => []
  | directory entries => listingOf entries

/-- The entries of a directory and all that lies below them. -/
def listingOf : List (String × FileTree) → List (String × Bool)
  | [] => []
  | (name, child) :: entries =>
    (name, child.isDirectory) ::
      child.listing.map (fun item => (name ++ "/" ++ item.1, item.2)) ++ listingOf entries

end

/-- Changes what lies below by a list of names; directories on the way are created. None if a file
is in the way, or if the change refuses. -/
def alter? (change? : Option FileTree → Option FileTree) : List String → FileTree → Option FileTree
  | [], tree => change? (some tree)
  | _ :: _, file _ => none
  | name :: names, directory entries => do
    let child ← match Fields.find? name entries, names with
      | some child, names => child.alter? change? names
      | none, [] => change? none
      | none, names => (directory []).alter? change? names
    return directory (Fields.insert name child entries)
termination_by names => names.length

/-- Removes what lies below by a list of names. -/
def remove : List String → FileTree → FileTree
  | [name], directory entries => directory (Fields.erase name entries)
  | name :: names, directory entries =>
    match Fields.find? name entries with
    | some child => directory (Fields.insert name (child.remove names) entries)
    | none => directory entries
  | _, tree => tree
termination_by names => names.length

end FileTree

/-- The files there are, and the names of the directories from the root to the working directory. -/
structure FileSystem where
  root : FileTree
  working : List String

namespace FileSystem

/-- Files with an empty working directory. -/
def empty : FileSystem :=
  { root := .directory [("work", .directory [])], working := ["work"] }

/-- One segment of a path on the way from a directory. Even a segment that goes nowhere needs a
directory to stand in. -/
def step? (files : FileSystem) (place : List String) (segment : String) : Option (List String) :=
  match files.root.descend? place with
  | some (.directory entries) =>
    if segment = "" ∨ segment = "." then some place
    else if segment = ".." then some place.dropLast
    else (Fields.find? segment entries).map fun _ => place ++ [segment]
  | _ => none

/-- The names from the root to what lies at a path. -/
def locate? (files : FileSystem) (path : String) : Option (List String) :=
  if path = "" then none
  else (Path.segments path).foldlM files.step? (if Path.isAbsolute path then [] else files.working)

/-- What lies at a path. -/
def find? (files : FileSystem) (path : String) : Option FileTree :=
  (files.locate? path).bind files.root.descend?

/-- Whether a directory lies at a path. -/
def isDirectory (files : FileSystem) (path : String) : Bool :=
  match files.find? path with
  | some tree => tree.isDirectory
  | none => false

/-- The data of the file at a path. -/
def fileData? (files : FileSystem) (path : String) : Option (List UInt8) :=
  match files.find? path with
  | some (.file data) => some data
  | _ => none

/-- The names that a path stands for, whether or not something lies there. -/
def namesOf (files : FileSystem) (path : String) : List String :=
  (Path.components path).foldl (fun place component =>
    match component with
    | .root => []
    | .current => place
    | .parent => place.dropLast
    | .normal name => place ++ [name]) files.working

/-- Puts a file at a path, or with no data a directory, creating the directories above it. A
directory does not become a file, nor a file a directory; then nothing changes. -/
def write (files : FileSystem) (path : String) (data : Option (List UInt8)) : FileSystem :=
  let change? : Option FileTree → Option FileTree
    | none => some (match data with
      | some data => .file data
      | none => .directory [])
    | some (.file _) => data.map .file
    | some (.directory entries) => if data = none then some (.directory entries) else none
  match files.root.alter? change? (files.namesOf path) with
  | some root => { files with root }
  | none => files

/-- Removes the file or the whole directory at a path; the answer tells whether there was one. -/
def remove (files : FileSystem) (path : String) : Bool × FileSystem :=
  match files.locate? path with
  | some names => (true, { files with root := files.root.remove names })
  | none => (false, files)

end FileSystem

end Isolation
