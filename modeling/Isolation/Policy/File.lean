import Isolation.Context.Basic
import Isolation.Policy.Basic
import Isolation.Text.Blank
import Isolation.Text.Utf8
import Isolation.Toml.Document

/-!
# Policy files

A policy is written in a configuration document with four sections: what is isolated, the isolated
archives, the archives of the host, and the context that work starts in. Relative paths start from
the directory of the file.

## Main definitions

* `PolicyFile` — the contents of a policy file
* `PolicyFile.parse`, `PolicyFile.load` — reading it from a text, and from a file
* `PolicyFile.Accepted` — what is demanded of the contents
* `PolicyFile.policy` — the policy, with its archives looked up
-/

namespace Isolation

/-- What an isolated archive is said to be. -/
inductive ArchiveKind
  | zip
  | dir
  deriving DecidableEq, Repr

/-- The word for a kind of archive. -/
def ArchiveKind.name : ArchiveKind → String
  | zip => "zip"
  | dir => "dir"

/-- The kind that a word stands for. -/
def ArchiveKind.ofName? (name : String) : Option ArchiveKind :=
  [zip, dir].find? fun kind => kind.name = name

/-- An isolated archive as it is written. -/
structure ArchiveEntry where
  path : String
  kind : Option ArchiveKind
  deriving DecidableEq, Repr

/-- The contents of a policy file, and the directory that its relative paths start from. -/
structure PolicyFile where
  includes : List String := []
  excludes : List String := []
  discover : Bool := false
  ignores : List String := []
  sharesContext : Bool := false
  archives : List ArchiveEntry := []
  hostArchives : List String := []
  context : Snapshot := {}
  base : Option String := none
  deriving DecidableEq, Repr

/-- Why a policy file is refused. -/
inductive PolicyFileError
  | unreadable
  | unparsable
  | emptyName
  | emptyPath
  deriving DecidableEq, Repr

/-- The error as text; why a file cannot be read or parsed is not told. -/
def PolicyFileError.message : PolicyFileError → String
  | unreadable => "Failed to read policy file: "
  | unparsable => "Failed to parse policy file: "
  | emptyName => "Invalid policy: empty prefix would match every symbol"
  | emptyPath => "Invalid policy: empty archive path"

namespace Toml.Item

/-- The text of a string. -/
def asString? : Item → Option String
  | string text => some text
  | _ => none

/-- A truth value. -/
def asBool? : Item → Option Bool
  | bool b => some b
  | _ => none

/-- The items of an array of either form. -/
def asArray? : Item → Option (List Item)
  | array items => some items
  | tables elements => some elements
  | _ => none

/-- The fields of a structure with given names: a table without other keys, or an array of the
fields in order, where further items do not count. -/
def fields? (names : List String) : Item → Option (List (String × Item))
  | table _ entries =>
    if entries.all fun entry => names.contains entry.1 then some entries else none
  | item => item.asArray?.map names.zip

/-- The texts in a table of strings. -/
def asMap? : Item → Option (StringMap String)
  | table _ entries => do
    let pairs ← entries.mapM fun entry => do return (entry.1, ← entry.2.asString?)
    return StringMap.ofList pairs
  | _ => none

/-- Whether there is nothing in a table or an array. -/
def isEmpty : Item → Bool
  | table _ entries => entries.isEmpty
  | array items => items.isEmpty
  | tables elements => elements.isEmpty
  | _ => false

/-- A word out of several: a string, or a table with the word as its only key and nothing in it. -/
def asWord? : Item → Option String
  | string text => some text
  | table _ [(word, content)] => if content.isEmpty then some word else none
  | _ => none

end Toml.Item

namespace PolicyFile

open Toml (Item)

/-- Reads a field of a structure; one that is left out has a value to stand for it. -/
def field? {α : Type} (fields : List (String × Item)) (name : String) (missing : α)
    (read? : Item → Option α) : Option α :=
  match (fields.find? fun field => field.1 = name).map Prod.snd with
  | none => some missing
  | some item => read? item

/-- A list of strings. -/
def strings? (item : Item) : Option (List String) := item.asArray?.bind (·.mapM Item.asString?)

/-- The section on names. -/
def readNames? (file : PolicyFile) (item : Item) : Option PolicyFile := do
  let fields ← item.fields? ["include", "exclude", "discover", "ignore", "share-ambient"]
  return { file with
    includes := ← field? fields "include" [] strings?
    excludes := ← field? fields "exclude" [] strings?
    discover := ← field? fields "discover" false Item.asBool?
    ignores := ← field? fields "ignore" [] strings?
    sharesContext := ← field? fields "share-ambient" false Item.asBool? }

/-- One isolated archive. -/
def readArchive? (item : Item) : Option ArchiveEntry := do
  let fields ← item.fields? ["path", "kind"]
  let path ← ← field? fields "path" none fun item => item.asString?.map some
  let kind ← field? fields "kind" none fun item => do
    return some (← ArchiveKind.ofName? (← item.asWord?))
  return { path, kind }

/-- The section on the host. -/
def readHost? (file : PolicyFile) (item : Item) : Option PolicyFile := do
  let fields ← item.fields? ["archives"]
  return { file with hostArchives := ← field? fields "archives" [] strings? }

/-- The section on the context. -/
def readContext? (file : PolicyFile) (item : Item) : Option PolicyFile := do
  let fields ← item.fields? ["input", "env"]
  let input ← field? fields "input" ∅ Item.asMap?
  let env ← field? fields "env" ∅ Item.asMap?
  return { file with context := { input, env } }

/-- The contents that the entries of a document describe. -/
def ofEntries? (entries : List (String × Item)) : Option PolicyFile := do
  let fields ← (Item.table .header entries).fields? ["policy", "archive", "host", "context"]
  let file ← field? fields "policy" {} (readNames? {})
  let archives ← field? fields "archive" [] fun item => do (← item.asArray?).mapM readArchive?
  let file := { file with archives }
  let file ← field? fields "host" file file.readHost?
  field? fields "context" file file.readContext?

/-- No name may be blank, since every symbol begins with an empty one. -/
def namesAccepted (file : PolicyFile) : Bool :=
  (file.includes ++ file.excludes ++ file.ignores).all fun name => !Text.isAllBlank name

/-- No archive may have an empty path. -/
def pathsAccepted (file : PolicyFile) : Bool :=
  (file.archives.map ArchiveEntry.path ++ file.hostArchives).all fun path => path ≠ ""

/-- What is demanded of the contents of a policy file. -/
def Accepted (file : PolicyFile) : Prop := file.namesAccepted = true ∧ file.pathsAccepted = true

/-- Checks what is demanded, names first. -/
def validate (file : PolicyFile) : Except PolicyFileError PolicyFile :=
  if !file.namesAccepted then .error .emptyName
  else if !file.pathsAccepted then .error .emptyPath
  else .ok file

theorem accepted_of_validate {file accepted : PolicyFile} (h : file.validate = .ok accepted) :
    accepted = file ∧ file.Accepted := by
  unfold validate at h
  split at h
  · cases h
  · split at h
    · cases h
    · next hn hp =>
      cases h
      exact ⟨rfl, by simpa using hn, by simpa using hp⟩

/-- The contents of a policy file from its text. -/
def parse (text : String) : Except PolicyFileError PolicyFile :=
  match (Toml.parse? text).bind ofEntries? with
  | some file => file.validate
  | none => .error .unparsable

/-- The contents of the policy file at a path. -/
def load (files : FileSystem) (path : String) : Except PolicyFileError PolicyFile :=
  match (files.fileData? path).bind Text.Utf8.decode? with
  | none => .error .unreadable
  | some text => (parse text).map fun file => { file with base := Path.parent? path }

/-- A path as it is meant: a relative one starts from the directory of the file. -/
def resolve (file : PolicyFile) (path : String) : String :=
  match file.base with
  | some base => Path.join base path
  | none => path

/-- The isolated archives. -/
def isolatedArchives (file : PolicyFile) (files : FileSystem) : List Archive :=
  file.archives.map fun entry =>
    let path := file.resolve entry.path
    match entry.kind with
    | some .zip => .zip path
    | some .dir => .directory path
    | none => Archive.ofPath files path

/-- The archives of the host. -/
def archivesOfHost (file : PolicyFile) (files : FileSystem) : List Archive :=
  file.hostArchives.map fun path => Archive.ofPath files (file.resolve path)

/-- The policy that a file describes. -/
def policy (file : PolicyFile) (files : FileSystem) : Policy where
  archives := file.isolatedArchives files
  included := StringSet.ofList file.includes
  excluded := StringSet.ofList file.excludes
  discover := file.discover
  ignores := file.ignores
  sharesContext := file.sharesContext

end PolicyFile

end Isolation
