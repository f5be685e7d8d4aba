import Isolation.Loader.Resolve

/-!
# The system

All that loaders and work depend on and change: files, stores, loaders, registries, the loader that
each thread has in its slot, and the log of what work noted.

## Main definitions

* `System` — the state
* `System.makeHost`, `System.makeBoundary`, `System.makeRelay` — new loaders
* `System.resolve`, `System.explain` — what a loader answers for a name, and how that comes about
-/

namespace Isolation

/-- The state that loaders and work depend on and change. -/
structure System where
  files : FileSystem
  stores : Stores := {}
  storeNames : StringMap StoreId := ∅
  loaders : Loaders := {}
  registries : StringMap Registry := ∅
  slots : ThreadMap LoaderRef := ∅
  log : List Note := []

namespace System

/-- The loader of a name. -/
def loaderNamed? (system : System) (name : String) : Option LoaderRef :=
  system.loaders.names.find? name

/-- The store that is spoken of. Names that mean nothing stand for the store of the process. -/
def storeOf (system : System) : StoreName → StoreId
  | .process => processStore
  | .named name => (system.storeNames.find? name).getD processStore
  | .ofLoader name =>
    (((system.loaderNamed? name).bind system.loaders.get?).map Loader.context).getD processStore

/-- The registry of a name, or one without entry points. -/
def registryOf (system : System) (name : Option String) : Registry :=
  (name.bind system.registries.find?).getD .empty

/-- The number of the loader in the slot of a thread. -/
def currentId? (system : System) (thread : ThreadId) : Option LoaderId :=
  ((system.slots.get? thread).bind system.loaders.get?).map Loader.id

/-- Puts a loader into the slot of a thread, or empties the slot. -/
def setSlot (system : System) (thread : ThreadId) (loader : Option LoaderRef) : System :=
  match loader with
  | some ref => { system with slots := system.slots.set thread ref }
  | none => { system with slots := system.slots.erase thread }

/-- Makes a store. -/
def makeStore (system : System) : StoreId × System :=
  let (id, stores) := system.stores.make
  (id, { system with stores })

/-- Adds a loader. -/
def addLoader (system : System) (loader : Loader) : LoaderRef × System :=
  let (ref, loaders) := system.loaders.add loader
  (ref, { system with loaders })

/-- Makes a host. It takes its number once its archives are open. -/
def makeHost (system : System) (archives : List Archive) (registry : Registry)
    (context : StoreId) : Except ArchiveError LoaderRef × System :=
  match openAll system.files archives with
  | .error error => (.error error, system)
  | .ok opened =>
    let (id, loaders) := system.loaders.takeId
    let (ref, system) := { system with loaders }.addLoader
      (.host { id, archives, opened, registry, context })
    (.ok ref, system)

/-- The policy that a boundary goes by, in which the packages it discovers are included. -/
def effectivePolicy (files : FileSystem) (policy : Policy) : Except ArchiveError Policy :=
  if policy.discover then
    (scan files policy.archives policy.ignores .packages).map policy.withDiscovered
  else .ok policy

/-- Makes a boundary below a loader. It takes its number first, and a store of its own last. -/
def makeBoundary (system : System) (policy : Policy) (parent : LoaderRef) (registry : Registry) :
    Except BoundaryError LoaderRef × System :=
  let (id, loaders) := system.loaders.takeId
  let system := { system with loaders }
  match effectivePolicy system.files policy with
  | .error error => (.error (.undiscovered error), system)
  | .ok policy =>
    match openAll system.files policy.archives with
    | .error error => (.error (.unopened error), system)
    | .ok isolated =>
      -- from here on nothing can fail
      let above := system.loaders.get? parent
      let inherited := (above.map Loader.archives).getD []
      let (context, system) :=
        if policy.sharesContext then ((above.map Loader.context).getD processStore, system)
        else system.makeStore
      let (ref, system) := system.addLoader (.boundary {
        id, policy, parent, parentId := (above.map Loader.id).getD id
        searchPath := policy.archives ++ inherited, sets := some { isolated }, registry, context })
      (.ok ref, system)

/-- Makes a relay in front of a loader. -/
def makeRelay (system : System) (inner : LoaderRef) (closes breaksOff : Option String) :
    LoaderRef × System :=
  match system.loaders.get? inner with
  | some loader => system.addLoader (.relay {
      id := loader.id, archives := loader.archives, context := loader.context
      inner, closes, breaksOff })
  | none => (inner, system)

/-- What a loader answers for a name. -/
def resolve (system : System) (ref : LoaderRef) (symbol : String) :
    Attempt (Except ResolveError LoadedUnit) × System :=
  let (answer, loaders) := system.loaders.resolve system.files symbol ref
  (answer, { system with loaders })

/-- How a boundary treats a name; any other loader leaves all names to itself or to others. -/
def routeOf (system : System) (ref : LoaderRef) (symbol : String) : Route :=
  match system.loaders.boundary? ref with
  | some boundary => boundary.policy.route symbol
  | none => .delegated

/-- How the answer of a boundary for a name comes about. -/
def explain (system : System) (ref : LoaderRef) (symbol : String) :
    Attempt (Except ResolveError Explanation) × System :=
  match system.resolve ref symbol with
  | (.done answer, after) =>
    (.done (answer.map fun unit => .ofUnit symbol (system.routeOf ref symbol) unit.info), after)
  | (.crashed crash, after) => (.crashed crash, after)

/-- Notes something in the log. -/
def addNote (system : System) (note : Note) : System := { system with log := system.log ++ [note] }

end System

end Isolation
