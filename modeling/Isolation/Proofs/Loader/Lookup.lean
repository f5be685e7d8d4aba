import Isolation.Proofs.Archive.Open
import Isolation.Proofs.Loader.Run

/-!
# Stateless lookup

What a chain of loaders has for a name can be said without caches and without archives that are held
open: by looking into the archives as they are. As long as the files do not change and no loader is
closed, this is what every loader answers, whatever was asked before.

## Main definitions

* `firstHit` — the first of several archives that holds a unit
* `Chain` — a loader with all loaders below it, as they were described when they were built
* `Chain.lookup` — what a chain has for a name
* `Loaders.Stands` — the chain that stands at a place
* `Loaders.Mirrors` — caches and opened archives agree with the files

## Main results

* `Loaders.Mirrors.answers` — one request, and what it leaves behind
* `System.run_resolve_eq_lookup` — requests refine the lookup
-/

namespace Isolation

/-- The data of a unit in an archive that is not open yet. -/
def Archive.unit? (files : FileSystem) (symbol : String) (archive : Archive) :
    Except ArchiveError (Option (List UInt8)) := do
  (← archive.toOpen files).read files (Symbol.toPath symbol)

/-- The first of several archives that holds a unit, if each is opened when its turn comes. -/
def firstHit (files : FileSystem) (symbol : String) :
    List Archive → Except ArchiveError (Option Located)
  | [] => .ok none
  | archive :: rest =>
    match archive.unit? files symbol with
    | .error error => .error error
    | .ok (some bytes) => .ok (some ⟨archive.label, Symbol.toPath symbol, bytes⟩)
    | .ok none => firstHit files symbol rest

/-- A host, or a boundary with what lies below it. -/
inductive Chain
  | host (id : LoaderId) (archives : List Archive) (registry : Registry)
  | boundary (id : LoaderId) (policy : Policy) (registry : Registry) (parent : Chain)

namespace Chain

/-- All archives from a loader down to the host. -/
def searchPath : Chain → List Archive
  | host _ archives _ => archives
  | boundary _ policy _ parent => policy.archives ++ parent.searchPath

/-- What comes of a search: a unit that has yet to get its serial number. -/
def stamp (id : LoaderId) (registry : Registry) (symbol : String) :
    Except ArchiveError (Option Located) → Except ResolveError (Nat → LoadedUnit)
  | .error error => .error (.archive error)
  | .ok none => .error (.notFound symbol)
  | .ok (some located) => .ok fun serial => .ofLocated serial symbol id located registry

/-- What a chain has for a name, up to the serial number. -/
def lookup (files : FileSystem) (symbol : String) :
    Chain → Except ResolveError (Nat → LoadedUnit)
  | host id archives registry => stamp id registry symbol (firstHit files symbol archives)
  | boundary id policy registry parent =>
    if Symbol.matchesAny symbol policy.excluded.toList then parent.lookup files symbol
    else if Symbol.matchesAny symbol policy.included.toList then
      stamp id registry symbol (firstHit files symbol policy.archives)
    else
      match parent.lookup files symbol with
      | .error (.notFound _) =>
        stamp id registry symbol (firstHit files symbol (policy.archives ++ parent.searchPath))
      | found => found

variable {files : FileSystem} {symbol : String} {id : LoaderId} {policy : Policy}
  {registry : Registry} {parent : Chain}

theorem lookup_excluded (route : policy.route symbol = .excluded) :
    (boundary id policy registry parent).lookup files symbol = parent.lookup files symbol := by
  simp only [Policy.route] at route
  split at route
  · next hexcluded => rw [lookup, if_pos hexcluded]
  · split at route <;> cases route

theorem lookup_isolated (route : policy.route symbol = .isolated) :
    (boundary id policy registry parent).lookup files symbol =
      stamp id registry symbol (firstHit files symbol policy.archives) := by
  simp only [Policy.route] at route
  split at route
  · cases route
  · next hexcluded =>
    split at route
    · next hincluded => rw [lookup, if_neg hexcluded, if_pos hincluded]
    · cases route

theorem lookup_delegated (route : policy.route symbol = .delegated) :
    (boundary id policy registry parent).lookup files symbol =
      match parent.lookup files symbol with
      | .error (.notFound _) =>
        stamp id registry symbol (firstHit files symbol (policy.archives ++ parent.searchPath))
      | found => found := by
  simp only [Policy.route] at route
  split at route
  · cases route
  · next hexcluded =>
    split at route
    · cases route
    · next hincluded => rw [lookup, if_neg hexcluded, if_neg hincluded]

end Chain

/-- Opening archives beforehand makes no difference, as long as the files stay as they are. -/
theorem findUnit_eq_firstHit {files : FileSystem} {archives : List Archive}
    {opened : List OpenArchive} (h : openAll files archives = .ok opened) (symbol : String) :
    findUnit files opened symbol = firstHit files symbol archives := by
  induction archives generalizing opened with
  | nil =>
    cases h
    rfl
  | cons archive rest ih =>
    obtain ⟨first, others, hfirst, hothers, rfl⟩ := openAll_cons h
    have hunit : archive.unit? files symbol = first.read files (Symbol.toPath symbol) := by
      rw [Archive.unit?, hfirst]
      rfl
    have hlabel := label_of_toOpen hfirst
    rw [findUnit, firstHit, hunit]
    cases first.read files (Symbol.toPath symbol) with
    | error error => rfl
    | ok found =>
      cases found with
      | none => exact ih hothers
      | some bytes => simp only [hlabel]

/-- A search in opened archives comes to what is in the archives. -/
theorem materialize_eq_stamp {files : FileSystem} {archives : List Archive}
    {opened : List OpenArchive} (h : openAll files archives = .ok opened) (id : LoaderId)
    (registry : Registry) (symbol : String) (serial : Nat) (cache : StringMap LoadedUnit) :
    (materialize files opened id registry symbol serial cache).1 =
      (Chain.stamp id registry symbol (firstHit files symbol archives)).map (· serial) := by
  rw [materialize, findUnit_eq_firstHit h]
  cases firstHit files symbol archives with
  | error error => rfl
  | ok found => cases found <;> rfl

namespace Loaders

/-- The chain that stands at a place. -/
inductive Stands (loaders : Loaders) : LoaderRef → Chain → Prop
  | host {ref host} (here : loaders.get? ref = some (.host host)) :
      Stands loaders ref (.host host.id host.archives host.registry)
  | boundary {ref boundary parent} (here : loaders.get? ref = some (.boundary boundary))
      (below : Stands loaders boundary.parent parent) :
      Stands loaders ref (.boundary boundary.id boundary.policy boundary.registry parent)

/-- The units that are kept are those that the chain has. -/
def Kept (files : FileSystem) (chain : Chain) (cache : StringMap LoadedUnit) : Prop :=
  ∀ symbol unit, cache.find? symbol = some unit →
    (chain.lookup files symbol).map (· unit.serial) = .ok unit

/-- A loader agrees with its chain: what it holds open is what the archives are, and it keeps what
the chain has. Names that a boundary excludes are never looked up in what it keeps. -/
inductive Agrees (files : FileSystem) (chains : LoaderRef → Chain) : Loader → Chain → Prop
  | host {host} (opens : openAll files host.archives = .ok host.opened)
      (kept : Kept files (.host host.id host.archives host.registry) host.cache) :
      Agrees files chains (.host host) (.host host.id host.archives host.registry)
  | boundary {boundary sets inherited} (unshut : boundary.sets = some sets)
      (path : boundary.searchPath = boundary.policy.archives ++ (chains boundary.parent).searchPath)
      (own : openAll files boundary.policy.archives = .ok sets.isolated)
      (above : openAll files (chains boundary.parent).searchPath = .ok inherited)
      (fallback : ∀ opened ∈ sets.fallback, openAll files boundary.searchPath = .ok opened)
      (kept : Kept files (.boundary boundary.id boundary.policy boundary.registry
        (chains boundary.parent)) boundary.cache) :
      Agrees files chains (.boundary boundary)
        (.boundary boundary.id boundary.policy boundary.registry (chains boundary.parent))

/-- All loaders agree with their chains. -/
def Mirrors (files : FileSystem) (loaders : Loaders) (chains : LoaderRef → Chain) : Prop :=
  ∀ {ref loader}, loaders.get? ref = some loader → Agrees files chains loader (chains ref)

variable {files : FileSystem} {symbol : String} {loaders after : Loaders} {ref other : LoaderRef}
  {chains : LoaderRef → Chain} {chain : Chain} {answer : Except ResolveError LoadedUnit}

/-- What is found and kept is what the chain has. -/
theorem Kept.of_search {opened : List OpenArchive} {id : LoaderId} {registry : Registry}
    {serial serial' : Nat} {cache cache' : StringMap LoadedUnit} (kept : Kept files chain cache)
    (search : materialize files opened id registry symbol serial cache = (answer, cache', serial'))
    (found : answer = (chain.lookup files symbol).map (· serial)) : Kept files chain cache' := by
  obtain ⟨_, -, rfl, -⟩ | ⟨unit, rfl, rfl, -, rfl, -⟩ := materialize_eq search
  · exact kept
  · intro name other hfind
    rw [StringMap.find?_insert] at hfind
    split at hfind
    · next hname =>
      cases hfind
      rw [hname, ← found]
    · exact kept name other hfind

theorem Agrees.host_inv {host : Host} (h : Agrees files chains (.host host) chain) :
    chain = .host host.id host.archives host.registry ∧
      openAll files host.archives = .ok host.opened ∧ Kept files chain host.cache := by
  cases h with
  | host opens kept => exact ⟨rfl, opens, kept⟩

theorem Agrees.exists_sets {boundary : Boundary}
    (h : Agrees files chains (.boundary boundary) chain) : ∃ sets, boundary.sets = some sets := by
  cases h with
  | boundary unshut => exact ⟨_, unshut⟩

theorem Agrees.boundary_inv {boundary : Boundary} {sets : OpenSets}
    (h : Agrees files chains (.boundary boundary) chain) (unshut : boundary.sets = some sets) :
    chain = .boundary boundary.id boundary.policy boundary.registry (chains boundary.parent) ∧
      boundary.searchPath = boundary.policy.archives ++ (chains boundary.parent).searchPath ∧
      openAll files boundary.policy.archives = .ok sets.isolated ∧
      (∃ inherited, openAll files (chains boundary.parent).searchPath = .ok inherited) ∧
      (∀ opened ∈ sets.fallback, openAll files boundary.searchPath = .ok opened) ∧
      Kept files chain boundary.cache := by
  cases h with
  | boundary unshut' path own above fallback kept =>
    obtain rfl := Option.some.inj (unshut'.symm.trans unshut)
    exact ⟨rfl, path, own, ⟨_, above⟩, fallback, kept⟩

/-- The search path of a boundary opens whenever it is needed. -/
theorem Agrees.openFallback_eq {boundary : Boundary} {sets : OpenSets}
    (h : Agrees files chains (.boundary boundary) chain) (unshut : boundary.sets = some sets) :
    ∃ opened, boundary.openFallback files sets = .ok opened ∧
      openAll files boundary.searchPath = .ok opened := by
  obtain ⟨-, path, own, ⟨inherited, above⟩, fallback, -⟩ := h.boundary_inv unshut
  rw [Boundary.openFallback]
  cases hsets : sets.fallback with
  | some opened => exact ⟨opened, rfl, fallback opened hsets⟩
  | none =>
    have hall := openAll_append own above
    rw [← path] at hall
    exact ⟨_, hall, hall⟩

theorem Mirrors.set {loader : Loader} (mirrors : Mirrors files loaders chains)
    (href : ref < loaders.list.length) (agrees : Agrees files chains loader (chains ref)) :
    Mirrors files (loaders.set ref loader) chains := by
  intro other found here
  rw [get?_set href] at here
  split at here
  · next h =>
    cases here
    exact h ▸ agrees
  · exact mirrors here

/-- A request is answered with what the chain has, and all loaders go on agreeing with their
chains. -/
theorem Mirrors.answers (layered : loaders.Layered) (mirrors : Mirrors files loaders chains)
    (h : Answers files symbol loaders ref answer after) :
    (∃ serial, answer = ((chains ref).lookup files symbol).map (· serial)) ∧
      Mirrors files after chains := by
  -- the induction is on the rules; what a loader keeps is what the lookup says, so a unit that is
  -- known already and one that is made now come to the same
  induction h with
  | @hostKnown ref host unit here known =>
    obtain ⟨hchain, -, kept⟩ := (mirrors here).host_inv
    exact ⟨⟨unit.serial, (kept symbol unit known).symm⟩, mirrors⟩
  | @hostSearch ref host answer cache serial here unknown search =>
    obtain ⟨hchain, opens, kept⟩ := (mirrors here).host_inv
    have found : answer = ((chains ref).lookup files symbol).map (· loaders.nextSerial) := by
      rw [hchain, Chain.lookup, ← materialize_eq_stamp opens, search]
    refine ⟨⟨_, found⟩, mirrors.set (get?_eq_some_lt here) ?_⟩
    rw [hchain] at kept found ⊢
    exact .host opens (kept.of_search search found)
  | closed here shut =>
    obtain ⟨sets, unshut⟩ := (mirrors here).exists_sets
    rw [shut] at unshut
    cases unshut
  | @known ref boundary sets unit here unshut route known =>
    obtain ⟨-, -, -, -, -, kept⟩ := (mirrors here).boundary_inv unshut
    exact ⟨⟨unit.serial, (kept symbol unit known).symm⟩, mirrors⟩
  | @isolated ref boundary sets answer cache serial here unshut route unknown search =>
    obtain ⟨hchain, path, own, ⟨inherited, above⟩, fallback, kept⟩ :=
      (mirrors here).boundary_inv unshut
    have found : answer = ((chains ref).lookup files symbol).map (· loaders.nextSerial) := by
      rw [hchain, Chain.lookup_isolated route, ← materialize_eq_stamp own, search]
    refine ⟨⟨_, found⟩, mirrors.set (get?_eq_some_lt here) ?_⟩
    rw [hchain] at kept found ⊢
    exact .boundary unshut path own above fallback (kept.of_search search found)
  | excluded here unshut route asked ih =>
    obtain ⟨hchain, -⟩ := (mirrors here).boundary_inv unshut
    rw [hchain, Chain.lookup_excluded route]
    exact ih
  | @delegated ref boundary sets answer after here unshut route unknown asked answered ih =>
    obtain ⟨hchain, -⟩ := (mirrors here).boundary_inv unshut
    obtain ⟨⟨serial, found⟩, hafter⟩ := ih
    refine ⟨⟨serial, ?_⟩, hafter⟩
    rw [hchain, Chain.lookup_delegated route]
    -- only a name that the parent does not have would be looked for further
    cases hparent : (chains boundary.parent).lookup files symbol with
    | ok unit => rw [found, hparent]
    | error error =>
      cases error with
      | notFound missing => exact absurd (found.trans (by rw [hparent]; rfl)) (answered missing)
      | noEntryPoint | archive | closed => rw [found, hparent]
  | unopened here unshut route unknown asked failed ih =>
    obtain ⟨opened, opens, -⟩ := (mirrors here).openFallback_eq unshut
    rw [failed] at opens
    cases opens
  | @fallback ref boundary sets missing after opened answer cache serial here unshut route unknown
      asked opens search ih =>
    obtain ⟨hchain, path, own, ⟨inherited, above⟩, fallback, kept⟩ :=
      (mirrors here).boundary_inv unshut
    obtain ⟨opened', opens', hall⟩ := (mirrors here).openFallback_eq unshut
    obtain rfl : opened' = opened := Except.ok.inj (opens'.symm.trans opens)
    obtain ⟨⟨serial', hmissing⟩, hafter⟩ := ih
    -- serial numbers apart, the parent answers as its lookup says
    have hparent : (chains boundary.parent).lookup files symbol = .error (.notFound missing) := by
      cases hlookup : (chains boundary.parent).lookup files symbol with
      | ok unit =>
        rw [hlookup] at hmissing
        cases hmissing
      | error error =>
        rw [hlookup] at hmissing
        cases hmissing
        rfl
    have found : answer = ((chains ref).lookup files symbol).map (· after.nextSerial) := by
      rw [hchain, Chain.lookup_delegated route, hparent, ← path]
      exact (congrArg Prod.fst search).symm.trans (materialize_eq_stamp hall _ _ _ _ _)
    have now := (asked.get?_of_lt layered (layered.parent_lt here)).trans here
    refine ⟨⟨_, found⟩, hafter.set (get?_eq_some_lt now) ?_⟩
    rw [hchain] at kept found ⊢
    refine .boundary rfl path own above (fun other hother => ?_) (kept.of_search search found)
    cases hother
    exact hall

/-- The archives that a loader passes on are those on the search path of its chain. -/
theorem Agrees.archives_eq {loader : Loader} (h : Agrees files chains loader chain) :
    loader.archives = chain.searchPath ∧ ∃ opened, openAll files chain.searchPath = .ok opened := by
  cases h with
  | host opens => exact ⟨rfl, _, opens⟩
  | boundary _ path own above => exact ⟨path, _, openAll_append own above⟩

theorem Agrees.congr {loader : Loader} {chains' : LoaderRef → Chain}
    (h : Agrees files chains loader chain)
    (same : ∀ boundary, loader = .boundary boundary →
      chains' boundary.parent = chains boundary.parent) : Agrees files chains' loader chain := by
  cases h with
  | host opens kept => exact .host opens kept
  | @boundary boundary sets inherited unshut path own above fallback kept =>
    have hsame := same boundary rfl
    rw [← hsame] at path above kept ⊢
    exact .boundary unshut path own above fallback kept

/-- A loader that is built agrees with what it was built of. -/
theorem Mirrors.agrees_of_built {loader : Loader} (mirrors : Mirrors files loaders chains)
    (new : Built files loaders loader) : ∃ chain, Agrees files chains loader chain := by
  cases new with
  | host opens => exact ⟨_, .host opens nofun⟩
  | boundary below opens =>
    obtain ⟨harchives, inherited, above⟩ := (mirrors below).archives_eq
    exact ⟨_, .boundary rfl (congrArg _ harchives) opens above nofun nofun⟩

/-- What is done to loaders leaves them agreeing with their chains; only new loaders get new
chains. -/
theorem Mirrors.step (layered : loaders.Layered) (mirrors : Mirrors files loaders chains)
    (h : Step files loaders after) :
    ∃ chains', (∀ ref < loaders.list.length, chains' ref = chains ref) ∧
      Mirrors files after chains' := by
  cases h with
  | idle le => exact ⟨chains, fun _ _ => rfl, mirrors⟩
  | asked answers => exact ⟨chains, fun _ _ => rfl, (mirrors.answers layered answers).2⟩
  | @built loader new =>
    obtain ⟨chain, agrees⟩ := mirrors.agrees_of_built new
    obtain ⟨chains', hnew, same⟩ : ∃ chains' : LoaderRef → Chain,
        chains' loaders.list.length = chain ∧
          ∀ ref < loaders.list.length, chains' ref = chains ref :=
      ⟨fun ref => if ref = loaders.list.length then chain else chains ref, if_pos rfl,
        fun ref href => if_neg (Nat.ne_of_lt href)⟩
    -- chains of older loaders stay the same, since they only go on to older ones
    refine ⟨chains', same, fun {ref found} here => ?_⟩
    rw [get?_extend] at here
    split at here
    · next href =>
      cases here
      rw [href, hnew]
      refine agrees.congr fun boundary hboundary => same _ ?_
      cases new with
      | host => cases hboundary
      | boundary below =>
        cases hboundary
        exact get?_eq_some_lt below
    · rw [same ref (get?_eq_some_lt here)]
      refine (mirrors here).congr fun boundary hboundary => same _ ?_
      subst hboundary
      exact Nat.lt_trans (layered.parent_lt here) (get?_eq_some_lt here)

/-- The chains of loaders that agree with them are the chains that stand. -/
theorem Mirrors.stands (layered : loaders.Layered) (mirrors : Mirrors files loaders chains)
    (href : ref < loaders.list.length) : loaders.Stands ref (chains ref) := by
  induction ref using Nat.strongRecOn with
  | _ ref ih =>
    obtain ⟨loader, here⟩ : ∃ loader, loaders.get? ref = some loader :=
      ⟨_, List.getElem?_eq_getElem href⟩
    generalize hchain : chains ref = chain
    have agrees := hchain ▸ mirrors here
    cases agrees with
    | host => exact .host here
    | @boundary boundary =>
      have hlt := layered.parent_lt here
      exact .boundary here (ih boundary.parent hlt (Nat.lt_trans hlt href))

end Loaders

open Loaders

theorem Operation.perform_mirrors {operation : Operation} (h : operation.quiet = true)
    {system : System} {chains : LoaderRef → Chain} (layered : system.loaders.Layered)
    (mirrors : Mirrors system.files system.loaders chains) :
    ∃ chains', (∀ ref < system.loaders.list.length, chains' ref = chains ref) ∧
      Mirrors (operation.perform system).files (operation.perform system).loaders chains' := by
  obtain ⟨hfiles, hstep⟩ := operation.perform_step h layered
  rw [hfiles]
  exact mirrors.step layered hstep

/-- Undisturbed loaders agree with their chains, whatever they are asked and in whatever order they
are built; chains stay what they were. -/
theorem System.run_mirrors {operations : List Operation}
    (quiet : ∀ operation ∈ operations, operation.quiet = true) {system : System}
    {chains : LoaderRef → Chain} (layered : system.loaders.Layered)
    (mirrors : Mirrors system.files system.loaders chains) :
    system.loaders.list.length ≤ (system.run operations).loaders.list.length ∧
      (system.run operations).files = system.files ∧
      ∃ chains', (∀ ref < system.loaders.list.length, chains' ref = chains ref) ∧
        Mirrors (system.run operations).files (system.run operations).loaders chains' := by
  induction operations generalizing system chains with
  | nil => exact ⟨Nat.le_refl _, rfl, chains, fun _ _ => rfl, mirrors⟩
  | cons operation rest ih =>
    have hquiet := quiet operation List.mem_cons_self
    obtain ⟨hfiles, hstep⟩ := operation.perform_step hquiet layered
    obtain ⟨chains', hsame, hmirrors⟩ := operation.perform_mirrors hquiet layered mirrors
    obtain ⟨hle, hfiles', chains'', hsame', hmirrors'⟩ :=
      ih (fun other hother => quiet other (List.mem_cons_of_mem operation hother))
        (layered.step hstep) hmirrors
    have hlength := operation.length_le_perform layered
    refine ⟨Nat.le_trans hlength hle, hfiles'.trans hfiles, chains'', fun ref href => ?_, hmirrors'⟩
    rw [hsame' ref (Nat.lt_of_lt_of_le href hlength), hsame ref href]

theorem mirrors_nil {files : FileSystem} {loaders : Loaders} (empty : loaders.list = [])
    (chains : LoaderRef → Chain) : Mirrors files loaders chains := by
  intro ref loader here
  cases (get?_nil empty ref).symm.trans here

/-- As long as files do not change and nothing is closed, every loader answers for every name with
what its chain has, whatever else was built and asked since the loader was there. -/
theorem System.run_resolve_eq_lookup {earlier later : List Operation}
    (quiet : ∀ operation ∈ earlier ++ later, operation.quiet = true) {start : System}
    (empty : start.loaders.list = []) {ref : LoaderRef}
    (href : ref < (start.run earlier).loaders.list.length) :
    ∃ chain, (start.run earlier).loaders.Stands ref chain ∧
      (start.run (earlier ++ later)).loaders.Stands ref chain ∧
      ∀ symbol, ∃ serial, ((start.run (earlier ++ later)).resolve ref symbol).1 =
        .done ((chain.lookup start.files symbol).map (· serial)) := by
  rw [System.run_append]
  obtain ⟨hearlier, hlater⟩ := List.forall_mem_append.1 quiet
  have layered := System.run_layered earlier (layered_nil empty)
  have layered' := System.run_layered later layered
  obtain ⟨-, hfiles, chains, -, mirrors⟩ := System.run_mirrors hearlier (layered_nil empty)
    (mirrors_nil empty fun _ => .host ⟨0⟩ [] .empty)
  obtain ⟨hle, hfiles', chains', hsame, mirrors'⟩ := System.run_mirrors hlater layered mirrors
  have href' := Nat.lt_of_lt_of_le href hle
  rw [hfiles', hfiles] at mirrors'
  refine ⟨chains ref, mirrors.stands layered href, ?_, fun symbol => ?_⟩
  · exact hsame ref href ▸ mirrors'.stands layered' href'
  · obtain ⟨answer, after, hresolve, answers⟩ := layered'.answers start.files symbol href'
    obtain ⟨⟨serial, found⟩, -⟩ := mirrors'.answers layered' answers
    rw [hsame ref href] at found
    refine ⟨serial, ?_⟩
    simp only [System.resolve, hfiles', hfiles, hresolve, found]

/-- A boundary that was asked before answers with what the directory holds. -/
theorem System.run_resolve_eq_lookup_hostAndBoundary :
    (∀ operation ∈ hostAndBoundary ++ [.request 1 "A"], operation.quiet = true) ∧
      1 < (System.run hostAndBoundary { files := oneUnit }).loaders.list.length ∧
      ∃ chain, (System.run hostAndBoundary { files := oneUnit }).loaders.Stands 1 chain ∧
        (System.run (hostAndBoundary ++ [.request 1 "A"])
          { files := oneUnit }).loaders.Stands 1 chain ∧
        ∀ symbol, ∃ serial, ((System.run (hostAndBoundary ++ [.request 1 "A"])
            { files := oneUnit }).resolve 1 symbol).1 =
          .done ((chain.lookup oneUnit symbol).map (· serial)) :=
  ⟨by decide, by decide +kernel,
    System.run_resolve_eq_lookup (by decide) rfl (by decide +kernel)⟩

end Isolation
