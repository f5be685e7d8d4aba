import Isolation.Context.Basic
import Isolation.Context.ThreadMap

/-!
# Ambient stores

A store holds at most one context for each thread. Every operation concerns the context of the
thread that performs it.

## Main definitions

* `Store` — the contexts of the threads
* `Store.start`, `Store.stop` — the life of a context
* `Store.put`, `Store.merge` — its outputs
-/

namespace Isolation

/-- The contexts of the threads. -/
structure Store where
  contexts : ThreadMap Context := ∅

namespace Store

instance : Inhabited Store := ⟨{}⟩

/-- The context of a thread. -/
def current? (store : Store) (thread : ThreadId) : Option Context :=
  store.contexts.get? thread

/-- Whether a thread has a context. -/
def isActive (store : Store) (thread : ThreadId) : Bool := (store.current? thread).isSome

/-- What the context of a thread would start from again. -/
def snapshot? (store : Store) (thread : ThreadId) : Option Snapshot :=
  (store.current? thread).map Context.snapshot

/-- The number of threads with a context. -/
def activeThreads (store : Store) : Nat := store.contexts.size

/-- Sets the context of a thread. -/
def setContext (store : Store) (thread : ThreadId) (context : Context) : Store :=
  { store with contexts := store.contexts.set thread context }

/-- Starts a context for a thread that has none. -/
def start (store : Store) (thread : ThreadId) (snapshot : Snapshot) : Except ContextError Store :=
  match store.current? thread with
  | some _ => .error .alreadyActive
  | none => .ok (store.setContext thread (.ofSnapshot snapshot))

/-- Ends the context of a thread and hands out its outputs. -/
def stop (store : Store) (thread : ThreadId) :
    Except ContextError (StringMap String × Store) :=
  match store.current? thread with
  | none => .error .notActive
  | some context => .ok (context.output, { store with contexts := store.contexts.erase thread })

/-- Changes the outputs in the context of a thread. -/
def changeOutput (store : Store) (thread : ThreadId)
    (change : StringMap String → StringMap String) : Except ContextError Store :=
  match store.current? thread with
  | none => .error .notActive
  | some context =>
    .ok (store.setContext thread { context with output := change context.output })

/-- Sets an output. -/
def put (store : Store) (thread : ThreadId) (key value : String) : Except ContextError Store :=
  store.changeOutput thread fun output => output.insert key value

/-- Sets several outputs. -/
def merge (store : Store) (thread : ThreadId) (outputs : StringMap String) :
    Except ContextError Store :=
  store.changeOutput thread fun output => output.override outputs

/-- An input of the context of a thread. -/
def input? (store : Store) (thread : ThreadId) (key : String) : Option String :=
  (store.current? thread).bind fun context => context.input.find? key

/-- An entry of the environment in the context of a thread. -/
def env? (store : Store) (thread : ThreadId) (key : String) : Option String :=
  (store.current? thread).bind fun context => context.env.find? key

/-- An output in the context of a thread. -/
def output? (store : Store) (thread : ThreadId) (key : String) : Option String :=
  (store.current? thread).bind fun context => context.output.find? key

end Store

/-- A store is known by its number. The store of the process has number zero, all others count from
one in the order in which they were made. -/
abbrev StoreId := Nat

/-- The store of the process. -/
def processStore : StoreId := 0

/-- All stores there are, by their numbers. -/
structure Stores where
  list : List Store := [{}]

namespace Stores

/-- A store; one that was never made is empty. -/
def get (stores : Stores) (id : StoreId) : Store := stores.list.getD id {}

/-- Replaces a store; one that was never made is made, with all before it. -/
def set (stores : Stores) (id : StoreId) (store : Store) : Stores :=
  { list := (stores.list.rightpad (id + 1) {}).set id store }

/-- Makes a store. -/
def make (stores : Stores) : StoreId × Stores :=
  (stores.list.length, { list := stores.list ++ [{}] })

/-- An operation on one store, which changes nothing if it fails. -/
def change (stores : Stores) (id : StoreId) (operation : Store → Except ContextError Store) :
    Except ContextError Unit × Stores :=
  match operation (stores.get id) with
  | .ok store => (.ok (), stores.set id store)
  | .error error => (.error error, stores)

/-- Ends the context of a thread in one store and hands out its outputs. -/
def stop (stores : Stores) (id : StoreId) (thread : ThreadId) :
    Except ContextError (StringMap String) × Stores :=
  match (stores.get id).stop thread with
  | .ok (outputs, store) => (.ok outputs, stores.set id store)
  | .error error => (.error error, stores)

end Stores

end Isolation
