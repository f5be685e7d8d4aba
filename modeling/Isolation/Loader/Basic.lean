import Isolation.Archive.Scan
import Isolation.Context.Store
import Isolation.Work.Registry

/-!
# Loaders

A loader makes units out of what it finds in archives and keeps those it has made. The host has
archives of its own; a boundary has a policy, archives for what it isolates, and a parent. A relay
stands in front of another loader and does something of its own before it passes a name on.

## Main definitions

* `LoadedUnit` — a unit that a loader made
* `Host`, `Boundary`, `Relay`, `Loader`
* `Loaders` — all loaders there are
* `Boundary.close`
-/

namespace Isolation

/-- A unit that a loader made, linked to its entry points. The serial number tells it apart from any
other unit that was ever made. -/
structure LoadedUnit where
  serial : Nat
  name : String
  loader : LoaderId
  archive : String
  path : String
  bytes : List UInt8
  entries : Entries

namespace LoadedUnit

/-- What can be told of a unit. -/
def info (unit : LoadedUnit) : UnitInfo :=
  { name := unit.name, loader := unit.loader, archive := unit.archive, path := unit.path
    bytes := unit.bytes, members := unit.entries.keys }

/-- The unit that a loader makes of what it found. -/
def ofLocated (serial : Nat) (symbol : String) (id : LoaderId) (located : Located)
    (registry : Registry) : LoadedUnit :=
  { serial, name := symbol, loader := id, archive := located.archive, path := located.path
    bytes := located.bytes, entries := registry.link symbol }

/-- A unit with all that it shows of itself. -/
def describe (unit : LoadedUnit) : String :=
  "LoadedUnit \x7b name: " ++ Text.quote unit.name ++
    ", loader: LoaderId(" ++ Text.ofNat unit.loader.number ++ ")" ++
    ", location: " ++ Text.quote unit.info.location ++
    ", digest: " ++ Text.quote (Text.Hex.encode unit.info.digest) ++
    ", entries: " ++ Registry.describeMembers unit.entries.keys ++ " \x7d"

end LoadedUnit

/-- Loaders are told apart by their places in the list of all loaders. -/
abbrev LoaderRef := Nat

/-- A loader at the root: it finds units in archives that are open from the beginning. -/
structure Host where
  id : LoaderId
  archives : List Archive
  opened : List OpenArchive
  registry : Registry
  cache : StringMap LoadedUnit := ∅
  context : StoreId

/-- The archives that an open boundary reads: its own ones, and all on its search path once they
were needed. -/
structure OpenSets where
  isolated : List OpenArchive
  fallback : Option (List OpenArchive) := none

/-- A loader that isolates some names and leaves others to its parent. Without open archives it is
closed. -/
structure Boundary where
  id : LoaderId
  policy : Policy
  parent : LoaderRef
  parentId : LoaderId
  searchPath : List Archive
  sets : Option OpenSets
  cache : StringMap LoadedUnit := ∅
  registry : Registry
  context : StoreId

namespace Boundary

/-- Whether the boundary is closed. -/
def isClosed (boundary : Boundary) : Bool := boundary.sets.isNone

/-- Closes the boundary and forgets its units. -/
def close (boundary : Boundary) : Boundary := { boundary with sets := none, cache := ∅ }

end Boundary

/-- A loader that passes names on to another and looks like it. Before that it closes the boundary
of a given name, if there is one, and then it may break off. -/
structure Relay where
  id : LoaderId
  archives : List Archive
  context : StoreId
  inner : LoaderRef
  closes : Option String
  breaksOff : Option String

/-- A loader. -/
inductive Loader
  | host (host : Host)
  | boundary (boundary : Boundary)
  | relay (relay : Relay)

namespace Loader

/-- The number of a loader. -/
def id : Loader → LoaderId
  | .host h => h.id
  | .boundary b => b.id
  | .relay r => r.id

/-- The archives that a loader can reach, which end up on the search paths of its children. -/
def archives : Loader → List Archive
  | .host h => h.archives
  | .boundary b => b.searchPath
  | .relay r => r.archives

/-- The store of a loader. -/
def context : Loader → StoreId
  | .host h => h.context
  | .boundary b => b.context
  | .relay r => r.context

/-- The loader after it is closed, which changes boundaries only. -/
def close : Loader → Loader
  | .boundary b => .boundary b.close
  | loader => loader

end Loader

/-- All loaders there are, those with names, and the numbers to be given next. -/
structure Loaders where
  list : List Loader := []
  names : StringMap LoaderRef := ∅
  nextId : Nat := 1
  nextSerial : Nat := 0

namespace Loaders

/-- A loader. -/
def get? (loaders : Loaders) (ref : LoaderRef) : Option Loader := loaders.list[ref]?

/-- Replaces a loader. -/
def set (loaders : Loaders) (ref : LoaderRef) (loader : Loader) : Loaders :=
  { loaders with list := loaders.list.set ref loader }

/-- A new number for a loader. -/
def takeId (loaders : Loaders) : LoaderId × Loaders :=
  (⟨loaders.nextId⟩, { loaders with nextId := loaders.nextId + 1 })

/-- Adds a loader. -/
def add (loaders : Loaders) (loader : Loader) : LoaderRef × Loaders :=
  (loaders.list.length, { loaders with list := loaders.list ++ [loader] })

/-- Gives a loader a name, which no longer means another. -/
def bind (loaders : Loaders) (name : String) (ref : LoaderRef) : Loaders :=
  { loaders with names := loaders.names.insert name ref }

/-- Closes a loader. -/
def close (loaders : Loaders) (ref : LoaderRef) : Loaders :=
  match loaders.get? ref with
  | some loader => loaders.set ref loader.close
  | none => loaders

/-- Closes the loader of a name, if there is one. -/
def closeNamed (loaders : Loaders) (name : String) : Loaders :=
  match loaders.names.find? name with
  | some ref => loaders.close ref
  | none => loaders

end Loaders

end Isolation
