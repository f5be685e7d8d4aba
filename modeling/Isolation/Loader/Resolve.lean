import Isolation.Loader.Basic

/-!
# Resolving names

How a loader answers for a name. The host looks into its own archives. A boundary leaves excluded
names to its parent, answers for isolated names itself, and asks its parent first for all others;
what the parent does not have is looked for in all archives on the search path, which are opened
when they are first needed. Every loader answers again with the unit that it made before.

## Main definitions

* `Host.resolve`, `Boundary.resolveIsolated`, `Boundary.resolveFallback` — what a loader finds
  itself
* `Loaders.resolve` — what a loader answers
* `Explanation` — how an answer came about
-/

namespace Isolation

/-- The unit for a name out of some opened archives, kept with those made before. The answer comes
with all units made so far and the next serial number. -/
def materialize (files : FileSystem) (archives : List OpenArchive) (id : LoaderId)
    (registry : Registry) (symbol : String) (serial : Nat) (cache : StringMap LoadedUnit) :
    Except ResolveError LoadedUnit × StringMap LoadedUnit × Nat :=
  match findUnit files archives symbol with
  | .error error => (.error (.archive error), cache, serial)
  | .ok none => (.error (.notFound symbol), cache, serial)
  | .ok (some located) =>
    let unit := LoadedUnit.ofLocated serial symbol id located registry
    (.ok unit, cache.insert symbol unit, serial + 1)

/-- What the host answers for a name. -/
def Host.resolve (files : FileSystem) (symbol : String) (serial : Nat) (host : Host) :
    Except ResolveError LoadedUnit × Host × Nat :=
  match host.cache.find? symbol with
  | some unit => (.ok unit, host, serial)
  | none =>
    let (answer, cache, serial) :=
      materialize files host.opened host.id host.registry symbol serial host.cache
    (answer, { host with cache }, serial)

namespace Boundary

/-- What a boundary answers for a name that it isolates. -/
def resolveIsolated (files : FileSystem) (symbol : String) (serial : Nat) (boundary : Boundary) :
    Except ResolveError LoadedUnit × Boundary × Nat :=
  match boundary.cache.find? symbol with
  | some unit => (.ok unit, boundary, serial)
  | none =>
    match boundary.sets with
    | none => (.error (.closed boundary.id), boundary, serial)
    | some sets =>
      let (answer, cache, serial) :=
        materialize files sets.isolated boundary.id boundary.registry symbol serial boundary.cache
      (answer, { boundary with cache }, serial)

/-- The archives on the search path, which are opened all together if they are not open yet. -/
def openFallback (files : FileSystem) (boundary : Boundary) (sets : OpenSets) :
    Except ArchiveError (List OpenArchive) :=
  match sets.fallback with
  | some opened => .ok opened
  | none => openAll files boundary.searchPath

/-- What a boundary answers for a name that its parent does not have. -/
def resolveFallback (files : FileSystem) (symbol : String) (serial : Nat) (boundary : Boundary) :
    Except ResolveError LoadedUnit × Boundary × Nat :=
  match boundary.cache.find? symbol with
  | some unit => (.ok unit, boundary, serial)
  | none =>
    match boundary.sets with
    | none => (.error (.closed boundary.id), boundary, serial)
    | some sets =>
      match openFallback files boundary sets with
      | .error error => (.error (.archive error), boundary, serial)
      | .ok opened =>
        let boundary := { boundary with sets := some { sets with fallback := some opened } }
        let (answer, cache, serial) :=
          materialize files opened boundary.id boundary.registry symbol serial boundary.cache
        (answer, { boundary with cache }, serial)

end Boundary

namespace Loaders

/-- Keeps the host after it answered. -/
def keepHost (loaders : Loaders) (ref : LoaderRef)
    (result : Except ResolveError LoadedUnit × Host × Nat) :
    Attempt (Except ResolveError LoadedUnit) × Loaders :=
  (.done result.1, { loaders.set ref (.host result.2.1) with nextSerial := result.2.2 })

/-- Keeps a boundary after it answered. -/
def keepBoundary (loaders : Loaders) (ref : LoaderRef)
    (result : Except ResolveError LoadedUnit × Boundary × Nat) :
    Attempt (Except ResolveError LoadedUnit) × Loaders :=
  (.done result.1, { loaders.set ref (.boundary result.2.1) with nextSerial := result.2.2 })

/-- The boundary at a place, as it is now. -/
def boundary? (loaders : Loaders) (ref : LoaderRef) : Option Boundary :=
  match loaders.get? ref with
  | some (.boundary boundary) => some boundary
  | _ => none

/-- A unit of the parent counts only if the boundary was not closed in the meantime. -/
def unlessClosed (ref : LoaderRef) (boundary : Boundary) (unit : LoadedUnit) (loaders : Loaders) :
    Attempt (Except ResolveError LoadedUnit) × Loaders :=
  match loaders.boundary? ref with
  | some now =>
    if now.isClosed then (.done (.error (.closed boundary.id)), loaders)
    else (.done (.ok unit), loaders)
  | none => (.done (.ok unit), loaders)

/-- What a loader answers for a name. Parents and the loaders behind relays stand in front of those
that refer to them; nothing else is ever asked. -/
def resolve (files : FileSystem) (symbol : String) (ref : LoaderRef) (loaders : Loaders) :
    Attempt (Except ResolveError LoadedUnit) × Loaders :=
  match loaders.get? ref with
  | none => (.done (.error (.notFound symbol)), loaders)
  | some (.host host) =>
    loaders.keepHost ref (host.resolve files symbol loaders.nextSerial)
  | some (.relay relay) =>
    let loaders := match relay.closes with
      | some name => loaders.closeNamed name
      | none => loaders
    -- what is closed stays closed even if the relay breaks off now
    match relay.breaksOff with
    | some message => (.crashed (.text message), loaders)
    | none =>
      if relay.inner < ref then resolve files symbol relay.inner loaders
      else (.done (.error (.notFound symbol)), loaders)
  | some (.boundary boundary) =>
    if boundary.isClosed then (.done (.error (.closed boundary.id)), loaders)
    else
      match boundary.policy.route symbol with
      | .isolated =>
        loaders.keepBoundary ref (boundary.resolveIsolated files symbol loaders.nextSerial)
      | .excluded =>
        if boundary.parent < ref then
          match resolve files symbol boundary.parent loaders with
          | (.done (.ok unit), loaders) => unlessClosed ref boundary unit loaders
          | answer => answer
        else (.done (.error (.notFound symbol)), loaders)
      | .delegated =>
        match boundary.cache.find? symbol with
        | some unit => (.done (.ok unit), loaders)
        | none =>
          if boundary.parent < ref then
            match resolve files symbol boundary.parent loaders with
            | (.done (.ok unit), loaders) => unlessClosed ref boundary unit loaders
            | (.done (.error (.notFound missing)), loaders) =>
              -- the parent may have closed this boundary, so it is looked up again
              match loaders.boundary? ref with
              | some now =>
                loaders.keepBoundary ref (now.resolveFallback files symbol loaders.nextSerial)
              | none => (.done (.error (.notFound missing)), loaders)
            | answer => answer
          else (.done (.error (.notFound symbol)), loaders)
termination_by ref

end Loaders

/-- How the answer for a name came about. -/
structure Explanation where
  symbol : String
  route : Route
  loader : LoaderId
  location : String
  digest : List UInt8
  deriving DecidableEq, Repr

/-- The explanation as text. -/
def Explanation.display (explanation : Explanation) : String :=
  explanation.symbol ++ " -> " ++ explanation.route.display ++ " (" ++ explanation.loader.display ++
    ") " ++ explanation.location

/-- The route of a name together with the unit that was found. -/
def Explanation.ofUnit (symbol : String) (route : Route) (unit : UnitInfo) : Explanation :=
  { symbol, route, loader := unit.loader, location := unit.location, digest := unit.digest }

end Isolation
