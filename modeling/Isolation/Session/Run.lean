import Isolation.Session.Command

/-!
# Sessions

A session does one command after the other. What it makes it keeps under names; what fails leaves
everything of that name as it was. Scopes and guards belong to the thread that made them and are
ended with it, the last one first.

## Main definitions

* `Session` — what a session keeps
* `Session.run` — commands and their answers
-/

namespace Isolation

/-- The scopes of contexts and the guards of the loader slot that a thread holds, oldest first: a
scope with its store, a guard with what was in the slot before it. -/
structure Holdings where
  scopes : List (String × StoreId) := []
  guards : List (String × Option LoaderRef) := []

/-- What a session keeps. -/
structure Session where
  system : System
  opened : StringMap OpenArchive := ∅
  sets : StringMap (List OpenArchive) := ∅
  units : StringMap LoadedUnit := ∅
  files : StringMap PolicyFile := ∅
  holdings : Holdings := {}
  nextThread : ThreadId := 1

namespace Session

/-- How deep dispatches may nest. -/
def maxNesting : Nat := 1000

/-- Takes the oldest entry of a name out of a list. -/
def takeNamed {α : Type} (name : String) : List (String × α) → Option (α × List (String × α))
  | [] => none
  | entry :: rest =>
    if entry.1 = name then some (entry.2, rest)
    else (takeNamed name rest).map fun (found, rest) => (found, entry :: rest)

/-- Puts other stores into the session. -/
def withStores (session : Session) (stores : Stores) : Session :=
  { session with system := { session.system with stores } }

/-- The answer to an operation on contexts that tells nothing if it succeeds. -/
def ofContextResult : Except ContextError Unit → Answer
  | .ok () => .done
  | .error error => .contextError error

/-- The answer of outputs. -/
def ofOutputs : Except ContextError (StringMap String) → Answer
  | .ok outputs => .outputs outputs
  | .error error => .contextError error

/-- The answer of an operation on archives. -/
def ofArchiveResult {α : Type} (answer : α → Answer) : Except ArchiveError α → Answer
  | .ok value => answer value
  | .error error => .archiveError error

/-- An operation on the context of a thread in a store. -/
def changeStore (session : Session) (store : StoreName)
    (operation : Store → Except ContextError Store) : Except ContextError Unit × Session :=
  let (result, stores) := session.system.stores.change (session.system.storeOf store) operation
  (result, session.withStores stores)

/-- Ends the context of a thread in a store. -/
def stopStore (session : Session) (thread : ThreadId) (store : StoreId) :
    Except ContextError (StringMap String) × Session :=
  let (result, stores) := session.system.stores.stop store thread
  (result, session.withStores stores)

/-- The store that is spoken of. -/
def store (session : Session) (name : StoreName) : Store :=
  session.system.stores.get (session.system.storeOf name)

/-- The loader of a name with its place. -/
def loader? (session : Session) (name : String) : Option (LoaderRef × Loader) := do
  let ref ← session.system.loaderNamed? name
  return (ref, ← session.system.loaders.get? ref)

/-- The boundary of a name. -/
def boundary? (session : Session) (name : String) : Option Boundary :=
  match session.loader? name with
  | some (_, .boundary boundary) => some boundary
  | _ => none

/-- What is told of a boundary. -/
def infoOf (session : Session) (boundary : Boundary) : BoundaryInfo :=
  let parentStore := (session.system.loaders.get? boundary.parent).map Loader.context
  { id := boundary.id, parent := boundary.parentId, policy := boundary.policy
    searchPath := boundary.searchPath.map Archive.label
    sharesStore := parentStore = some boundary.context
    loaded := boundary.cache.size, closed := boundary.isClosed }

/-- Names a loader. -/
def nameLoader (session : Session) (name : String) (ref : LoaderRef) : Session :=
  { session with system := { session.system with loaders := session.system.loaders.bind name ref } }

/-- The answer to the making of a boundary, which gets its name if it was made. -/
def ofMade (session : Session) (name : String) : Except BoundaryError LoaderRef → Answer × Session
  | .error error => (.boundaryError error, session)
  | .ok ref =>
    let session := session.nameLoader name ref
    match session.boundary? name with
    | some boundary => (.boundary (session.infoOf boundary), session)
    | none => (.unknown, session)

/-- Makes a host and names it. -/
def makeHost (session : Session) (name : String) (archives : List Archive) (registry : Registry)
    (store : StoreId) : Answer × Session :=
  match session.system.makeHost archives registry store with
  | (.error error, system) => (.archiveError error, { session with system })
  | (.ok ref, system) =>
    let session := { session with system }.nameLoader name ref
    match session.loader? name with
    | some (_, loader) =>
      (.host loader.id registry.size (archives.map Archive.label), session)
    | none => (.unknown, session)

/-- The registry that some registrations make up. -/
def registryOf (entries : List Registration) : Registry :=
  entries.foldl (fun registry entry =>
    let handler := Script.handler entry.actions
    match entry.member with
    | some member => registry.register entry.unit member handler
    | none => registry.registerWork entry.unit handler) .empty

/-- The answer of a loader to a name, with the unit if there is one. -/
def resolveNamed (session : Session) (name symbol : String) :
    Except Answer LoadedUnit × Session :=
  match session.system.loaderNamed? name with
  | none => (.error .unknown, session)
  | some ref =>
    match session.system.resolve ref symbol with
    | (.done (.ok unit), system) => (.ok unit, { session with system })
    | (.done (.error error), system) => (.error (.resolveError error), { session with system })
    | (.crashed crash, system) => (.error (.crashed crash), { session with system })

/-- Drops a guard: what was in the slot before it is put back. -/
def restore (session : Session) (thread : ThreadId) (previous : Option LoaderRef) : Session :=
  { session with system := session.system.setSlot thread previous }

/-- Ends everything that a thread still holds, the last first, guards before scopes, and its context
in the store of the process. -/
def leave (session : Session) (thread : ThreadId) : Session :=
  -- later guards remember what earlier ones put into the slot
  let guards := session.holdings.guards.reverse
  let scopes := session.holdings.scopes.reverse
  let session := guards.foldl (fun session guard => session.restore thread guard.2) session
  let session := scopes.foldl (fun session scope => (session.stopStore thread scope.2).2) session
  { (session.stopStore thread processStore).2 with holdings := {} }

/-- A store with its number and the number of threads that have a context in it. -/
def describeStore (session : Session) (store : StoreName) : String :=
  "AmbientStore \x7b id: " ++ Text.ofNat (session.system.storeOf store) ++
    ", active_threads: " ++ Text.ofNat (session.store store).activeThreads ++ " \x7d"

/-- The number of a loader, for descriptions. -/
def describeId (id : LoaderId) : String := "LoaderId(" ++ Text.ofNat id.number ++ ")"

/-- A set of texts, for descriptions. -/
def describeSet (set : StringSet) : String :=
  "\x7b" ++ ", ".intercalate (set.toList.map Text.quote) ++ "\x7d"

/-- A loader with all that it shows of itself. -/
def describeLoader : Loader → String
  | .host host =>
    "HostLoader \x7b id: " ++ describeId host.id ++
      ", archives: " ++ Text.bracket (host.archives.map Archive.describe) ++
      ", loaded: " ++ Text.ofNat host.cache.size ++ " \x7d"
  | .boundary boundary =>
    "Boundary \x7b id: " ++ describeId boundary.id ++
      ", parent: " ++ describeId boundary.parentId ++
      ", included: " ++ describeSet boundary.policy.included ++
      ", excluded: " ++ describeSet boundary.policy.excluded ++
      ", loaded: " ++ Text.ofNat boundary.cache.size ++ " \x7d"
  | .relay _ => ""

/-- The description of a subject. -/
def describe? (session : Session) : Subject → Option String
  | .archive archive => some archive.describe
  | .opened name => (session.opened.find? name).map OpenArchive.describe
  | .registry name => (session.system.registries.find? name).map Registry.describe
  | .linked registry unit =>
    (session.system.registries.find? registry).map fun registry =>
      Registry.describeMembers (registry.link unit).keys
  | .store store => some (session.describeStore store)
  | .loader name => (session.loader? name).map fun loader => describeLoader loader.2
  | .unit name => (session.units.find? name).map LoadedUnit.describe
  | .dispatcher store => some ("Dispatcher \x7b host: " ++ session.describeStore store ++ " \x7d")

/-- Where a scope starts from. -/
def snapshotOf (session : Session) : ScopeSource → Snapshot
  | .given snapshot => snapshot
  | .file name => ((session.files.find? name).map PolicyFile.context).getD {}

/-- The policy that is meant. -/
def policyOf (session : Session) : PolicySource → Policy
  | .given policy => policy
  | .file name =>
    ((session.files.find? name).map fun file => file.policy session.system.files).getD {}

/-- The archives of a host that are meant. -/
def archivesOf (session : Session) : HostSource → List Archive
  | .given archives => archives
  | .empty => []
  | .file name =>
    ((session.files.find? name).map fun file => file.archivesOfHost session.system.files).getD []

/-- The policy file that is meant. -/
def policyFileOf (session : Session) : TextSource → Except PolicyFileError PolicyFile
  | .path path => PolicyFile.load session.system.files path
  | .text text => PolicyFile.parse text

/-- The commands on stores and contexts; none if a command is not one of them. -/
def runContext? (thread : ThreadId) (command : Command) (session : Session) :
    Option (Answer × Session) :=
  match command with
  | .makeStore name =>
    let (id, system) := session.system.makeStore
    some (.storeId id,
      { session with system := { system with storeNames := system.storeNames.insert name id } })
  | .start store snapshot =>
    let (result, session) := session.changeStore store (·.start thread snapshot)
    some (ofContextResult result, session)
  | .stop store =>
    let (result, session) := session.stopStore thread (session.system.storeOf store)
    some (ofOutputs result, session)
  | .snapshot store => some (.snapshot ((session.store store).snapshot? thread), session)
  | .current store => some (.context ((session.store store).current? thread), session)
  | .merge store outputs =>
    let (result, session) := session.changeStore store (·.merge thread outputs)
    some (ofContextResult result, session)
  | .put store key value =>
    let (result, session) := session.changeStore store (·.put thread key value)
    some (ofContextResult result, session)
  | .look name key =>
    let store := session.store name
    some (.looked (store.input? thread key) (store.env? thread key) (store.output? thread key),
      session)
  | .activity name =>
    let store := session.store name
    some (.activity (store.isActive thread) store.activeThreads, session)
  | .sameStore a b => some (.flag (session.system.storeOf a = session.system.storeOf b), session)
  | .enterScope name store source =>
    match session.changeStore store (·.start thread (session.snapshotOf source)) with
    | (.error error, session) => some (.contextError error, session)
    | (.ok (), session) =>
      let scopes := session.holdings.scopes ++ [(name, session.system.storeOf store)]
      some (.flag ((session.store store).isActive thread),
        { session with holdings := { session.holdings with scopes } })
  | .finishScope name =>
    match takeNamed name session.holdings.scopes with
    | none => some (.noOutputs, session)
    | some (store, scopes) =>
      let session := { session with holdings := { session.holdings with scopes } }
      let (result, session) := session.stopStore thread store
      some (ofOutputs result, session)
  | .dropScope name =>
    match takeNamed name session.holdings.scopes with
    | none => some (.flag false, session)
    | some (store, scopes) =>
      let session := { session with holdings := { session.holdings with scopes } }
      some (.flag true, (session.stopStore thread store).2)
  | .propagateIn store loader =>
    let (result, stores) := session.system.stores.propagateIn thread
      (session.system.storeOf store) (session.system.storeOf (.ofLoader loader))
    some (match result with
      | .ok carried => .flag carried
      | .error error => .propagateError error, session.withStores stores)
  | .propagateOut store loader =>
    let (result, stores) := session.system.stores.propagateOut thread
      (session.system.storeOf store) (session.system.storeOf (.ofLoader loader))
    some (match result with
      | .ok outputs => .outputs outputs
      | .error error => .propagateError error, session.withStores stores)
  | _ => none

/-- The commands on files and archives; none if a command is not one of them. -/
def runArchive? (command : Command) (session : Session) : Option (Answer × Session) :=
  let files := session.system.files
  match command with
  | .write path data =>
    some (.done, { session with system := { session.system with files := files.write path data } })
  | .remove path =>
    let (removed, files) := files.remove path
    some (.flag removed, { session with system := { session.system with files } })
  | .scan kind archives ignored =>
    some (ofArchiveResult .names (scan files archives ignored kind), session)
  | .archive archive => some (.archive archive, session)
  | .openArchive name archive =>
    match archive.toOpen files with
    | .error error => some (.archiveError error, session)
    | .ok opened =>
      some (.text opened.label, { session with opened := session.opened.insert name opened })
  | .entries name =>
    some (match session.opened.find? name with
      | some opened => ofArchiveResult .entries (opened.entries files)
      | none => .unknown, session)
  | .read name path =>
    some (match session.opened.find? name with
      | some opened => ofArchiveResult .data (opened.read files path)
      | none => .unknown, session)
  | .openSet name archives =>
    match openAll files archives with
    | .error error => some (.archiveError error, session)
    | .ok opened =>
      some (.archives (opened.map OpenArchive.label),
        { session with sets := session.sets.insert name opened })
  | .find name symbol =>
    some (match session.sets.find? name with
      | some opened => ofArchiveResult .located (findUnit files opened symbol)
      | none => .unknown, session)
  | .policyFile name source symbols =>
    match session.policyFileOf source with
    | .error error => some (.policyFileError error, session)
    | .ok file =>
      some (.policyFile file files symbols,
        { session with files := session.files.insert name file })
  | _ => none

/-- The commands on registries and loaders; none if a command is not one of them. -/
def runLoader? (command : Command) (session : Session) : Option (Answer × Session) :=
  match command with
  | .registry name entries =>
    let registry := registryOf entries
    let registries := session.system.registries.insert name registry
    some (.registry registry.size, { session with system := { session.system with registries } })
  | .lookUp name unit member =>
    some (match session.system.registries.find? name with
      | some registry =>
        let entries := registry.link unit
        .members (registry.contains unit member) (entries.contains member) entries.keys
      | none => .unknown, session)
  | .host name source registry store =>
    let registry := match source with
      | .empty => Registry.empty
      | _ => session.system.registryOf registry
    let store := session.system.storeOf (store.getD .process)
    some (session.makeHost name (session.archivesOf source) registry store)
  | .relay name inner closes breaksOff =>
    match session.system.loaderNamed? inner with
    | none => some (.unknown, session)
    | some inner =>
      let (ref, system) := session.system.makeRelay inner closes breaksOff
      some (.done, { session with system }.nameLoader name ref)
  | .boundary name parent registry source =>
    match session.system.loaderNamed? parent with
    | none => some (.unknown, session)
    | some parent =>
      let (made, system) := session.system.makeBoundary (session.policyOf source) parent
        (session.system.registryOf registry)
      some ({ session with system }.ofMade name made)
  | .info name =>
    some (match session.boundary? name with
      | some boundary => .boundary (session.infoOf boundary)
      | none => .unknown, session)
  | .route name symbol =>
    some (match session.boundary? name with
      | some boundary => .route (boundary.policy.route symbol)
      | none => .unknown, session)
  | .close name =>
    let loaders := session.system.loaders.closeNamed name
    let session := { session with system := { session.system with loaders } }
    some (match session.boundary? name with
      | some boundary => .closed boundary.isClosed boundary.cache.size
      | none => .unknown, session)
  | .resolve name symbol keep =>
    match session.resolveNamed name symbol with
    | (.error answer, session) => some (answer, session)
    | (.ok unit, session) =>
      some (.unit unit.info, match keep with
        | some name => { session with units := session.units.insert name unit }
        | none => session)
  | .unit name =>
    some (match session.units.find? name with
      | some unit => .unit unit.info
      | none => .unknown, session)
  | .compare a b =>
    some (match session.units.find? a, session.units.find? b with
      | some a, some b =>
        .compared (a.serial = b.serial) (a.info.sameShape b.info) (a.loader = b.loader)
          (a.info.digest = b.info.digest)
      | _, _ => .unknown, session)
  | .explain name symbol =>
    match session.system.loaderNamed? name with
    | none => some (.unknown, session)
    | some ref =>
      let (answer, system) := session.system.explain ref symbol
      some (match answer with
        | .done (.ok explanation) => .explanation explanation
        | .done (.error error) => .resolveError error
        | .crashed crash => .crashed crash, { session with system })
  | .loaded name symbols =>
    some (match session.loader? name with
      | some (_, .host host) => .loaded host.cache.size none
      | some (_, .boundary boundary) =>
        .loaded boundary.cache.size
          (some ((symbols.getD []).map fun symbol => boundary.cache.contains symbol))
      | _ => .unknown, session)
  | _ => none

/-- The commands on the slot of a thread, dispatches and descriptions. -/
def runThread (thread : ThreadId) (command : Command) (session : Session) : Answer × Session :=
  match command with
  | .guard name loader =>
    match session.system.loaderNamed? loader with
    | none => (.unknown, session)
    | some ref =>
      let guards := session.holdings.guards ++ [(name, session.system.slots.get? thread)]
      let system := session.system.setSlot thread (some ref)
      (.slot (system.currentId? thread),
        { session with system, holdings := { session.holdings with guards } })
  | .dropGuard name =>
    match takeNamed name session.holdings.guards with
    | none => (.slot (session.system.currentId? thread), session)
    | some (previous, guards) =>
      let session := { session with holdings := { session.holdings with guards } }
      let session := session.restore thread previous
      (.slot (session.system.currentId? thread), session)
  | .currentLoader => (.slot (session.system.currentId? thread), session)
  | .dispatch request =>
    match System.dispatch thread maxNesting request { session.system with log := [] } with
    | none => (.tooDeep, session)
    | some (answer, system) =>
      (.dispatched answer system.log (system.currentId? thread),
        { session with system := { system with log := [] } })
  | .describe subject =>
    (match session.describe? subject with
      | some text => .text text
      | none => .unknown, session)
  | _ => (.unknown, session)

mutual

/-- Does one command on a thread. -/
def runOne (thread : ThreadId) (session : Session) : Command → Answer × Session
  | .thread commands =>
    let new := session.nextThread
    let held := session.holdings
    let (answers, session) :=
      runAll new { session with nextThread := new + 1, holdings := {} } commands
    (.thread answers, { session.leave new with holdings := held })
  | command =>
    match session.runContext? thread command with
    | some result => result
    | none =>
      match session.runArchive? command with
      | some result => result
      | none => (session.runLoader? command).getD (session.runThread thread command)

/-- Does commands on a thread, one after the other. -/
def runAll (thread : ThreadId) (session : Session) : List Command → List Answer × Session
  | [] => ([], session)
  | command :: commands =>
    let (answer, session) := runOne thread session command
    let (answers, session) := runAll thread session commands
    (answer :: answers, session)

end

/-- The answers to the commands of a session that starts with some files. -/
def run (files : FileSystem) (commands : List Command) : List Answer :=
  (runAll 0 { system := { files } } commands).1

end Session

end Isolation
