import Isolation.Policy.File
import Isolation.System.Dispatch
import Isolation.Work.Script

/-!
# Commands of a session

A session works on stores, files, archives, loaders and policies, which it knows by names. Each
command has an answer.

## Main definitions

* `Command` — what a session can be told to do
* `Answer` — what it answers
-/

namespace Isolation

/-- Where a policy comes from: it is given, or it is that of a policy file that was read before. -/
inductive PolicySource
  | given (policy : Policy)
  | file (name : String)

/-- Where the archives of a host come from. -/
inductive HostSource
  | given (archives : List Archive)
  | empty
  | file (name : String)

/-- Where a context starts from. -/
inductive ScopeSource
  | given (snapshot : Snapshot)
  | file (name : String)

/-- Where a policy file is read from. -/
inductive TextSource
  | path (path : String)
  | text (text : String)

/-- What a description is asked of. -/
inductive Subject
  | archive (archive : Archive)
  | opened (name : String)
  | registry (name : String)
  | linked (registry unit : String)
  | store (store : StoreName)
  | loader (name : String)
  | unit (name : String)
  | dispatcher (store : StoreName)

/-- An entry point to be registered. -/
structure Registration where
  unit : String
  member : Option String
  actions : List Action

/-- What a session can be told to do. -/
inductive Command
  | makeStore (name : String)
  | start (store : StoreName) (snapshot : Snapshot)
  | stop (store : StoreName)
  | snapshot (store : StoreName)
  | current (store : StoreName)
  | merge (store : StoreName) (outputs : StringMap String)
  | put (store : StoreName) (key value : String)
  | look (store : StoreName) (key : String)
  | activity (store : StoreName)
  | sameStore (a b : StoreName)
  | enterScope (name : String) (store : StoreName) (source : ScopeSource)
  | finishScope (name : String)
  | dropScope (name : String)
  | propagateIn (store : StoreName) (loader : String)
  | propagateOut (store : StoreName) (loader : String)
  | write (path : String) (data : Option (List UInt8))
  | remove (path : String)
  | scan (kind : ScanKind) (archives : List Archive) (ignored : List String)
  | archive (archive : Archive)
  | openArchive (name : String) (archive : Archive)
  | entries (name : String)
  | read (name path : String)
  | openSet (name : String) (archives : List Archive)
  | find (name symbol : String)
  | registry (name : String) (entries : List Registration)
  | lookUp (name unit member : String)
  | host (name : String) (source : HostSource) (registry : Option String) (store : Option StoreName)
  | relay (name inner : String) (closes breaksOff : Option String)
  | boundary (name parent : String) (registry : Option String) (source : PolicySource)
  | info (name : String)
  | route (name symbol : String)
  | close (name : String)
  | resolve (name symbol : String) (keep : Option String)
  | unit (name : String)
  | compare (a b : String)
  | explain (name symbol : String)
  | loaded (name : String) (symbols : Option (List String))
  | guard (name loader : String)
  | dropGuard (name : String)
  | currentLoader
  | dispatch (request : Request)
  | policyFile (name : String) (source : TextSource) (symbols : List String)
  | thread (commands : List Command)
  | describe (subject : Subject)

/-- What a session tells of a boundary. -/
structure BoundaryInfo where
  id : LoaderId
  parent : LoaderId
  policy : Policy
  searchPath : List String
  sharesStore : Bool
  loaded : Nat
  closed : Bool

/-- What a session answers to a command. -/
inductive Answer
  | done
  | unknown
  | flag (b : Bool)
  | text (text : String)
  | storeId (id : StoreId)
  | contextError (error : ContextError)
  | archiveError (error : ArchiveError)
  | resolveError (error : ResolveError)
  | boundaryError (error : BoundaryError)
  | propagateError (error : PropagateError)
  | policyFileError (error : PolicyFileError)
  | crashed (crash : Crash)
  | outputs (outputs : StringMap String)
  | noOutputs
  | snapshot (snapshot : Option Snapshot)
  | context (context : Option Context)
  | looked (input env output : Option String)
  | activity (active : Bool) (threads : Nat)
  | names (names : StringSet)
  | archive (archive : Archive)
  | entries (entries : StringMap EntryKind)
  | data (data : Option (List UInt8))
  | archives (labels : List String)
  | located (located : Option Located)
  | registry (size : Nat)
  | members (registered : Bool) (linked : Bool) (members : List String)
  | host (id : LoaderId) (units : Nat) (archives : List String)
  | boundary (info : BoundaryInfo)
  | route (route : Route)
  | closed (closed : Bool) (loaded : Nat)
  | unit (info : UnitInfo)
  | compared (identical sameShape sameLoader sameDigest : Bool)
  | explanation (explanation : Explanation)
  | loaded (count : Nat) (symbols : Option (List Bool))
  | slot (loader : Option LoaderId)
  | dispatched (answer : Attempt (Except DispatchError Outcome)) (log : List Note)
      (loader : Option LoaderId)
  | tooDeep
  | policyFile (file : PolicyFile) (files : FileSystem) (symbols : List String)
  | thread (answers : List Answer)

end Isolation
