import Mathlib.Data.Set.Card
import Isolation.Proofs.Loader.Exclusion

/-!
# What a boundary keeps

Whatever is done with loaders, a boundary keeps the units that it made itself and no others. It keeps
each under the symbol that it was asked for, from the archives that this symbol is to be looked for
in. As long as the boundary is open these are all that it ever made, and they are all that were ever
answered with; once it is closed, it keeps nothing for good.

## Main definitions

* `Boundary.Stocks` — a unit that a boundary may keep for a symbol
* `Interaction`, `System.interact` — what is done with loaders
* `Once` — something took place in the course of a history
* `Interaction.Serves`, `Interaction.Materializes`, `Interaction.Closes` — what may have taken place

## Main results

* `System.once_of_made` — what a loader keeps was made in an answer
* `System.kept_of_once` — what a boundary answered with it keeps, if it is still open
* `System.isClosed_iff_once` — why a boundary is closed
* `System.interact_stocked` — what a boundary keeps, at any time
-/

namespace Isolation

/-- Keys are counted once. -/
theorem StringMap.encard_contains {α : Type} (map : StringMap α) :
    {key | map.contains key = true}.encard = map.size := by
  have hnodup : map.keys.Nodup :=
    (Fields.ordered_iff_keys.1 map.ordered).imp fun h => String.ne_of_lt h
  have hkeys : {key | map.contains key = true} = (map.keys.toFinset : Set String) := by
    ext key
    rw [Set.mem_ofPred_eq, StringMap.contains, StringMap.find?, Fields.isSome_find?,
      List.coe_toFinset, Set.mem_ofPred_eq, StringMap.keys]
  rw [hkeys, Set.encard_coe_eq_coe_finsetCard, List.toFinset_card_of_nodup hnodup, StringMap.keys,
    List.length_map, StringMap.size]

namespace Boundary

/-! ### Units -/

/-- The archives in which a boundary looks for a symbol, provided that its parent has nothing. -/
def searched (boundary : Boundary) (symbol : String) : List Archive :=
  if boundary.policy.route symbol = .isolated then boundary.policy.archives
  else boundary.searchPath

/-- A unit that a boundary may keep for a symbol. -/
structure Stocks (boundary : Boundary) (symbol : String) (unit : LoadedUnit) : Prop where
  name : unit.name = symbol
  loader : unit.loader = boundary.id
  path : unit.path = Symbol.toPath symbol
  digest : unit.info.digest = Sha256.digest unit.bytes
  entries : unit.entries = boundary.registry.link symbol
  route : boundary.policy.route symbol ≠ .excluded
  archive : unit.archive ∈ (boundary.searched symbol).map Archive.label
  read : unit.ReadFor (boundary.searched symbol) symbol

/-- A boundary keeps such units only, and none if it is closed. -/
structure Stocked (boundary : Boundary) : Prop where
  units : ∀ symbol unit, boundary.cache.find? symbol = some unit → boundary.Stocks symbol unit
  own : ∀ sets, boundary.sets = some sets →
    ∀ archive ∈ sets.isolated, archive.OpenedFrom boundary.policy.archives
  sourced : boundary.Sourced
  shut : boundary.isClosed = true → boundary.cache = ∅

variable {files : FileSystem} {symbol : String} {old new boundary : Boundary} {unit : LoadedUnit}

/-- It does not matter what else the boundary keeps and holds open. -/
theorem Stocks.update (stocks : boundary.Stocks symbol unit) (sets : Option OpenSets)
    (cache : StringMap LoadedUnit) : { boundary with sets, cache }.Stocks symbol unit :=
  { stocks with }

/-- A boundary reads the archives in which it is to look for the symbol. -/
theorem Stocked.openedFrom {archives : List OpenArchive} {sets : OpenSets}
    (stocked : boundary.Stocked) (reads : boundary.Reads files symbol archives sets) :
    ∀ archive ∈ archives, archive.OpenedFrom (boundary.searched symbol) := by
  cases reads with
  | isolated unshut route =>
    rw [searched, if_pos route]
    exact stocked.own sets unshut
  | fallback unshut route opens =>
    have hroute : boundary.policy.route symbol ≠ .isolated := by
      rw [route]
      nofun
    rw [searched, if_neg hroute]
    exact openedFrom_of_openFallback stocked.sourced unshut opens

theorem Stocked.built {loaders : Loaders} (new : loaders.Built files (.boundary boundary)) :
    boundary.Stocked := by
  have sourced : boundary.Sourced := .built new
  cases new with
  | boundary below opens =>
    refine ⟨nofun, ?_, sourced, nofun⟩
    intro sets hsets
    cases hsets
    exact openedFrom_of_openAll opens

theorem Stocked.searches (searches : old.Searches files symbol new) (stocked : old.Stocked) :
    new.Stocked := by
  have sourced := stocked.sourced.searches searches
  obtain @⟨archives, sets, serial, answer, cache, serial', reads, unknown, search⟩ := searches
  refine ⟨fun other unit kept => ?_, fun sets' hsets => ?_, sourced, nofun⟩
  · obtain kept | ⟨rfl, located, hfound, rfl⟩ := kept_of_search search kept
    · exact (stocked.units other unit kept).update _ _
    -- the unit is made of what was found in one of the archives that are to be searched
    · obtain ⟨archive, harchive, hlabel, hread⟩ := exists_of_findUnit hfound
      have opened := stocked.openedFrom reads archive harchive
      have stocks : old.Stocks other (.ofLocated serial other old.id located old.registry) :=
        { name := rfl, loader := rfl, path := path_of_findUnit hfound, digest := rfl, entries := rfl
          route := reads.route_ne_excluded, archive := hlabel.subst opened.label_mem
          read := ⟨files, archive, opened, hlabel, hread⟩ }
      exact stocks.update _ _
  · cases hsets
    cases reads with
    | isolated unshut => exact stocked.own sets unshut
    | @fallback held _ unshut => exact stocked.own held unshut

theorem Stocked.close : boundary.close.Stocked :=
  ⟨nofun, nofun, .close, fun _ => rfl⟩

end Boundary

open Loaders

theorem System.run_stocked {operations : List Operation} {start : System}
    (empty : start.loaders.list = []) {ref : LoaderRef} {boundary : Boundary}
    (here : (start.run operations).loaders.get? ref = some (.boundary boundary)) :
    boundary.Stocked := by
  refine System.run_boundaries (layered_nil empty) (fun ref boundary here => ?_) .built .searches
    (fun _ => .close) ref boundary here
  cases (get?_nil empty ref).symm.trans here

/-! ### Histories -/

/-- What is done with loaders: an operation, or the question how an answer comes about. -/
inductive Interaction
  | operation (operation : Operation)
  | explain (ref : LoaderRef) (symbol : String)

namespace Interaction

/-- The system after an interaction. -/
def perform : Interaction → System → System
  | operation done, system => done.perform system
  | explain ref symbol, system => (system.explain ref symbol).2

/-- The loader that is asked, and the symbol that it is asked for. -/
def asked? : Interaction → Option (LoaderRef × String)
  | operation (.request ref symbol) => some (ref, symbol)
  | explain ref symbol => some (ref, symbol)
  | operation _ => none

/-- The operation that leaves the same behind. -/
def effect : Interaction → Operation
  | operation done => done
  | explain ref symbol => .request ref symbol

theorem perform_eq (interaction : Interaction) (system : System) :
    interaction.perform system = interaction.effect.perform system := by
  cases interaction with
  | operation done => rfl
  | explain ref symbol => exact system.explain_snd ref symbol

theorem perform_of_asked? {interaction : Interaction} {ref : LoaderRef} {symbol : String}
    (h : interaction.asked? = some (ref, symbol)) (system : System) :
    interaction.perform system = (system.resolve ref symbol).2 := by
  unfold asked? at h
  split at h
  · cases h
    rfl
  · cases h
    exact system.explain_snd ref symbol
  · cases h

theorem asked?_of_effect {interaction : Interaction} {ref : LoaderRef} {symbol : String}
    (h : interaction.effect = .request ref symbol) : interaction.asked? = some (ref, symbol) := by
  cases interaction with
  | operation done =>
    cases h
    rfl
  | explain =>
    cases h
    rfl

theorem eq_of_effect_close {interaction : Interaction} {ref : LoaderRef}
    (h : interaction.effect = .close ref) : interaction = .operation (.close ref) := by
  cases interaction with
  | operation done => exact congrArg _ h
  | explain => cases h

end Interaction

/-- The system after several interactions. -/
def System.interact (history : List Interaction) (system : System) : System :=
  history.foldl (fun system interaction => interaction.perform system) system

/-- At some point of a history there was an interaction of which something held in the state in which
it took place. -/
def Once (p : Interaction → System → Prop) (start : System) (history : List Interaction) : Prop :=
  ∃ before interaction later, history = before ++ interaction :: later ∧
    p interaction (start.interact before)

/-- A loader is asked for a symbol, and the answer is a unit that the loader of a number made. -/
def Interaction.Serves (id : LoaderId) (symbol : String) (interaction : Interaction)
    (system : System) : Prop :=
  ∃ ref unit, interaction.asked? = some (ref, symbol) ∧
    (system.resolve ref symbol).1 = .done (.ok unit) ∧ unit.loader = id

/-- The answer is a unit that the loader of a number made just now. -/
def Interaction.Materializes (id : LoaderId) (symbol : String) (interaction : Interaction)
    (system : System) : Prop :=
  ∃ ref unit, interaction.asked? = some (ref, symbol) ∧
    (system.resolve ref symbol).1 = .done (.ok unit) ∧ unit.loader = id ∧
    unit.serial = system.loaders.nextSerial

/-- A loader that is there is closed. -/
def Interaction.Closes (ref : LoaderRef) (interaction : Interaction) (system : System) : Prop :=
  interaction = .operation (.close ref) ∧ ref < system.loaders.list.length

theorem Interaction.Materializes.serves {id : LoaderId} {symbol : String}
    {interaction : Interaction} {system : System} (h : interaction.Materializes id symbol system) :
    interaction.Serves id symbol system := by
  obtain ⟨ref, unit, hasked, answered, own, -⟩ := h
  exact ⟨ref, unit, hasked, answered, own⟩

variable {start system : System} {history : List Interaction} {interaction : Interaction}
  {p q : Interaction → System → Prop} {ref : LoaderRef} {symbol : String} {unit : LoadedUnit}
  {boundary : Boundary} {id : LoaderId}

theorem System.interact_eq_run (history : List Interaction) (system : System) :
    system.interact history = system.run (history.map Interaction.effect) := by
  rw [interact, run, List.foldl_map]
  congr
  funext system interaction
  exact interaction.perform_eq system

theorem System.interact_append_cons (before : List Interaction) (interaction : Interaction)
    (later : List Interaction) (system : System) :
    system.interact (before ++ interaction :: later) =
      (interaction.perform (system.interact before)).interact later :=
  List.foldl_append

theorem System.interact_layered (history : List Interaction) (layered : system.loaders.Layered) :
    (system.interact history).loaders.Layered := by
  rw [interact_eq_run]
  exact System.run_layered _ layered

theorem System.interact_numbered (history : List Interaction) (layered : system.loaders.Layered)
    (numbered : system.loaders.Numbered) : (system.interact history).loaders.Numbered := by
  rw [interact_eq_run]
  exact System.run_numbered layered numbered

theorem Once.append (once : Once p start history) (more : List Interaction) :
    Once p start (history ++ more) := by
  obtain ⟨before, interaction, later, rfl, h⟩ := once
  exact ⟨before, interaction, later ++ more, List.append_assoc .., h⟩

theorem Once.last (h : p interaction (start.interact history)) :
    Once p start (history ++ [interaction]) :=
  ⟨history, interaction, [], rfl, h⟩

theorem Once.mono (once : Once p start history)
    (imp : ∀ {interaction system}, p interaction system → q interaction system) :
    Once q start history := by
  obtain ⟨before, interaction, later, rfl, h⟩ := once
  exact ⟨before, interaction, later, rfl, imp h⟩

/-! ### What a loader makes -/

namespace System

theorem makeHost_made? (system : System) (archives : List Archive) (registry : Registry)
    (context : StoreId) (ref : LoaderRef) (symbol : String) :
    (system.makeHost archives registry context).2.loaders.made? ref symbol =
      system.loaders.made? ref symbol := by
  rw [makeHost]
  cases opens : openAll system.files archives with
  | error error => rfl
  | ok opened =>
    have new : Built system.files system.loaders (.host {
        id := ⟨system.loaders.nextId⟩, archives, opened, registry, context }) := .host opens
    exact new.made?_extend

theorem makeBoundary_made? (system : System) (policy : Policy) {parent : LoaderRef}
    (registry : Registry) (h : parent < system.loaders.list.length) (ref : LoaderRef)
    (symbol : String) :
    (system.makeBoundary policy parent registry).2.loaders.made? ref symbol =
      system.loaders.made? ref symbol := by
  obtain ⟨above, below⟩ : ∃ above, system.loaders.get? parent = some above :=
    ⟨_, List.getElem?_eq_getElem h⟩
  obtain ⟨error, hmake⟩ | ⟨effective, isolated, context, stores, -, opens, -, hmake⟩ :=
    system.makeBoundary_cases policy parent registry
  · rw [hmake]
    rfl
  · rw [hmake, boundaryBelow, below]
    exact (Built.boundary below opens).made?_extend

/-- A unit that is there after a request was there before, or it is the answer. -/
theorem resolve_made? (layered : system.loaders.Layered) {asked : LoaderRef} {name : String}
    (made : (system.resolve asked name).2.loaders.made? ref symbol = some unit) :
    system.loaders.made? ref symbol = some unit ∨
      symbol = name ∧ (system.resolve asked name).1 = .done (.ok unit) ∧
        unit.serial = system.loaders.nextSerial := by
  obtain hsame | ⟨answer, answers⟩ := System.resolve_cases layered asked name
  · rw [hsame] at made
    exact .inl made
  · have hanswer : (system.resolve asked name).1 = .done answer := by
      rw [resolve, answers.resolve_eq layered]
    obtain ⟨-, hsame⟩ | ⟨maker, new, rfl, makes, -, hmade⟩ := answers.made?_eq_or_makes layered
    · exact .inl ((hsame ref symbol).symm.trans made)
    · rw [hmade] at made
      split at made
      · next h =>
        cases made
        exact .inr ⟨h.2, hanswer, makes.serial⟩
      · exact .inl made

end System

/-- A unit that is there after an interaction was there before, or it was made in the answer. -/
theorem Interaction.made?_or_materializes (layered : system.loaders.Layered)
    (made : (interaction.perform system).loaders.made? ref symbol = some unit) :
    system.loaders.made? ref symbol = some unit ∨
      interaction.Materializes unit.loader symbol system := by
  rw [perform_eq] at made
  cases heffect : interaction.effect with
  | host archives registry context =>
    rw [heffect, Operation.perform, System.makeHost_made?] at made
    exact .inl made
  | boundary policy parent registry =>
    rw [heffect, Operation.perform] at made
    split at made
    · next h =>
      rw [System.makeBoundary_made? system policy registry h] at made
      exact .inl made
    · exact .inl made
  | request asked name =>
    rw [heffect] at made
    obtain made | ⟨rfl, answered, fresh⟩ := System.resolve_made? layered made
    · exact .inl made
    · exact .inr ⟨asked, unit, asked?_of_effect heffect, answered, rfl, fresh⟩
  | close other =>
    rw [heffect] at made
    exact .inl (made?_of_close made)
  | changeFiles files =>
    rw [heffect] at made
    exact .inl made

/-- What a loader keeps was made in an answer. -/
theorem System.once_of_made (empty : start.loaders.list = [])
    (made : (start.interact history).loaders.made? ref symbol = some unit) :
    Once (Interaction.Materializes unit.loader symbol) start history := by
  -- the induction is on the history from its end: what the last interaction did not make was there
  induction history using List.reverseRecOn with
  | nil =>
    obtain ⟨loader, here, -⟩ := Option.bind_eq_some_iff.1 made
    cases (get?_nil empty ref).symm.trans here
  | append_singleton history interaction ih =>
    rw [interact_append_cons] at made
    have layered := System.interact_layered history (layered_nil empty)
    obtain made | materializes := Interaction.made?_or_materializes layered made
    · exact (ih made).append _
    · exact .last materializes

/-! ### What a boundary keeps -/

/-- An open boundary still keeps what it ever kept. -/
theorem System.run_kept {operations : List Operation} (layered : system.loaders.Layered)
    (made : system.loaders.made? ref symbol = some unit)
    (here : (system.run operations).loaders.get? ref = some (.boundary boundary))
    (opened : boundary.isClosed = false) : boundary.cache.find? symbol = some unit := by
  obtain ⟨loader, there, -⟩ := Option.bind_eq_some_iff.1 made
  -- searches add to what is kept, and only closing takes it away
  have kept := System.run_boundary
    (P := fun boundary => boundary.isClosed = true ∨ boundary.cache.find? symbol = some unit)
    layered (get?_eq_some_lt there) (fun old hold => .inr ((made?_of_get? hold).symm.trans made))
    (fun searches kept => .inr ?_) (fun _ => .inl rfl) boundary here
  · obtain shut | kept := kept
    · cases shut.symm.trans opened
    · exact kept
  · obtain shut | kept := kept
    · cases shut.symm.trans searches.not_closed
    · exact searches.kept kept

/-- Loaders that have one number, now and later, stand at one place. -/
theorem System.run_id_inj {operations : List Operation} {maker : LoaderRef}
    (layered : system.loaders.Layered) (numbered : system.loaders.Numbered)
    (there : (system.loaders.get? maker).map Loader.id = some boundary.id)
    (here : (system.run operations).loaders.get? ref = some (.boundary boundary)) :
    maker = ref := by
  obtain ⟨loader, hloader, hid⟩ := Option.map_eq_some_iff.1 there
  have ages : system.loaders.Ages (system.run operations).loaders := System.run_ages layered
  have numbered' : (system.run operations).loaders.Numbered :=
    System.run_numbered layered numbered
  obtain ⟨last, hlast, hlastId⟩ := Option.map_eq_some_iff.1 (ages.id_eq hloader)
  exact numbered'.id_inj hlast here (hlastId.trans hid)

/-- What a boundary answered with it keeps, if it is still open. -/
theorem System.kept_of_once (empty : start.loaders.list = [])
    (here : (start.interact history).loaders.get? ref = some (.boundary boundary))
    (opened : boundary.isClosed = false)
    (served : Once (Interaction.Serves boundary.id symbol) start history) :
    ∃ unit, boundary.cache.find? symbol = some unit := by
  obtain ⟨before, interaction, later, rfl, asked, unit, hasked, answered, own⟩ := served
  have layered := System.interact_layered before (layered_nil empty)
  have numbered := System.interact_numbered before (layered_nil empty) (numbered_nil empty)
  rw [System.interact_append_cons, Interaction.perform_of_asked? hasked,
    System.interact_eq_run] at here
  have answers := System.answers_of_resolve layered answered
  have layered' := layered.of_frame (answers.frame_eq layered)
  obtain ⟨maker, made, hmaker⟩ := System.exists_maker layered numbered answered
  -- the loader that made the unit is this boundary, since numbers are given once
  obtain rfl : maker = ref :=
    System.run_id_inj layered' (numbered.answers layered answers) (own ▸ hmaker) here
  exact ⟨unit, System.run_kept layered' made here opened⟩

/-- A boundary is closed if and only if it was closed at some time. -/
theorem System.isClosed_iff_once (empty : start.loaders.list = [])
    (here : (start.interact history).loaders.get? ref = some (.boundary boundary)) :
    boundary.isClosed = true ↔ Once (Interaction.Closes ref) start history := by
  constructor
  -- boundaries are open when they are built, and searches leave them open
  · intro shut
    induction history using List.reverseRecOn generalizing boundary with
    | nil => cases (get?_nil empty ref).symm.trans here
    | append_singleton history interaction ih =>
      have layered := System.interact_layered history (layered_nil empty)
      rw [interact_append_cons, Interaction.perform_eq] at here
      obtain ⟨-, new⟩ | ⟨old, hold, rfl | ⟨symbol, searches⟩ | ⟨heffect, rfl⟩⟩ :=
        interaction.effect.perform_boundary layered here
      · cases new with
        | boundary => cases shut
      · exact (ih hold shut).append _
      · cases searches with
        | mk => cases shut
      · exact .last ⟨Interaction.eq_of_effect_close heffect, get?_eq_some_lt hold⟩
  -- nothing opens a boundary again
  · rintro ⟨before, interaction, later, rfl, rfl, taken⟩
    have layered := System.interact_layered before (layered_nil empty)
    rw [System.interact_append_cons, System.interact_eq_run] at here
    refine System.run_boundary (P := fun boundary => boundary.isClosed = true) layered.close ?_
      (fun old hold => ?_) (fun searches shut => ?_) (fun _ => rfl) boundary here
    · exact Nat.lt_of_lt_of_le taken (Operation.length_le_perform (.close ref) layered)
    · obtain ⟨older, -, ⟨hne, -⟩ | ⟨-, rfl⟩⟩ := boundary_of_close hold
      · exact absurd rfl hne
      · rfl
    · cases shut.symm.trans searches.not_closed

/-- What a boundary keeps. In every state that can be reached from one without loaders, by building,
asking and closing loaders and changing files in any order: a unit that is kept for a symbol is such
as the boundary may keep for it. The boundary is closed if and only if it was closed at some time, and
then it keeps nothing. Otherwise it keeps as many units as there are symbols for which it ever made
one, and it keeps one for a symbol if and only if a unit of its own was ever the answer for it. -/
theorem System.interact_stocked {start : System} (empty : start.loaders.list = [])
    (history : List Interaction) (ref : LoaderRef) (boundary : Boundary)
    (here : (start.interact history).loaders.get? ref = some (.boundary boundary)) :
    (∀ symbol unit, boundary.cache.find? symbol = some unit → boundary.Stocks symbol unit) ∧
      (boundary.isClosed = true ↔ Once (Interaction.Closes ref) start history) ∧
      (boundary.isClosed = true → boundary.cache.size = 0) ∧
      (boundary.isClosed = false → (boundary.cache.size : ℕ∞) =
        {symbol | Once (Interaction.Materializes boundary.id symbol) start history}.encard) ∧
      ∀ symbol, boundary.cache.contains symbol = true ↔
        Once (Interaction.Serves boundary.id symbol) start history ∧ boundary.isClosed = false := by
  have stocked : boundary.Stocked := by
    rw [System.interact_eq_run] at here
    exact System.run_stocked empty here
  have opened_of {symbol unit} (kept : boundary.cache.find? symbol = some unit) :
      boundary.isClosed = false := by
    cases shut : boundary.isClosed with
    | false => rfl
    | true =>
      rw [stocked.shut shut] at kept
      cases kept
  have materialized {symbol} (h : boundary.cache.contains symbol = true) :
      Once (Interaction.Materializes boundary.id symbol) start history := by
    obtain ⟨unit, kept⟩ := Option.isSome_iff_exists.1 h
    rw [← (stocked.units symbol unit kept).loader]
    exact System.once_of_made empty ((made?_of_get? here).trans kept)
  have kept {symbol} (opened : boundary.isClosed = false)
      (served : Once (Interaction.Serves boundary.id symbol) start history) :
      boundary.cache.contains symbol = true :=
    Option.isSome_iff_exists.2 (System.kept_of_once empty here opened served)
  refine ⟨stocked.units, System.isClosed_iff_once empty here, fun shut => ?_, fun opened => ?_,
    fun symbol => ⟨fun h => ⟨(materialized h).mono Interaction.Materializes.serves, ?_⟩, fun h => kept h.2 h.1⟩⟩
  · rw [stocked.shut shut]
    rfl
  · rw [← StringMap.encard_contains]
    congr 1
    ext symbol
    exact ⟨materialized, fun h => kept opened (h.mono Interaction.Materializes.serves)⟩
  · obtain ⟨unit, kept⟩ := Option.isSome_iff_exists.1 h
    exact opened_of kept

/-- A boundary is asked how the answer for a symbol comes about, and for what it has for this symbol
and for one that is not there. -/
def askedTwice : List Interaction :=
  hostAndGuard.map .operation ++
    [.explain 1 "pkg.Y", .operation (.request 1 "pkg.Y"), .operation (.request 1 "pkg.Z")]

/-- It made one unit, and that it keeps; once it is closed, it keeps none. -/
theorem System.interact_stocked_askedTwice :
    (∃ boundary unit, ((System.interact askedTwice { files := secretFiles }).loaders.get? 1) =
        some (.boundary boundary) ∧ boundary.isClosed = false ∧
      {symbol | Once (Interaction.Materializes boundary.id symbol) { files := secretFiles }
        askedTwice}.encard = 1 ∧
      boundary.cache.find? "pkg.Y" = some unit ∧ unit.path = "pkg/Y.unit" ∧
      unit.archive ∈ (boundary.searched "pkg.Y").map Archive.label ∧
      Once (Interaction.Serves boundary.id "pkg.Y") { files := secretFiles } askedTwice) ∧
    ∃ boundary, ((System.interact (askedTwice ++ [.operation (.close 1)])
        { files := secretFiles }).loaders.get? 1) = some (.boundary boundary) ∧
      Once (Interaction.Closes 1) { files := secretFiles }
        (askedTwice ++ [.operation (.close 1)]) ∧ boundary.cache.size = 0 := by
  constructor
  · have hsome : (((System.interact askedTwice { files := secretFiles }).loaders.boundary? 1).bind
        fun boundary => boundary.cache.find? "pkg.Y").isSome = true := by decide +kernel
    have hsize : ((System.interact askedTwice { files := secretFiles }).loaders.boundary? 1).map
        (fun boundary => (boundary.isClosed, boundary.cache.size)) = some (false, 1) := by
      decide +kernel
    obtain ⟨unit, hunit⟩ := Option.isSome_iff_exists.1 hsome
    obtain ⟨boundary, hboundary, kept⟩ := Option.bind_eq_some_iff.1 hunit
    rw [hboundary] at hsize
    obtain ⟨opened, hone⟩ := Prod.mk.inj (Option.some.inj hsize)
    have here := get?_of_boundary? hboundary
    obtain ⟨units, -, -, count, loaded⟩ := System.interact_stocked rfl askedTwice 1 boundary here
    have stocks := units "pkg.Y" unit kept
    have hloaded : boundary.cache.contains "pkg.Y" = true := by
      rw [StringMap.contains, kept, Option.isSome_some]
    have hpath : Symbol.toPath "pkg.Y" = "pkg/Y.unit" := by decide
    refine ⟨boundary, unit, here, opened, ?_, kept, stocks.path.trans hpath, stocks.archive,
      ((loaded "pkg.Y").1 hloaded).1⟩
    rw [← count opened, hone, Nat.cast_one]
  · have hshut : ((System.interact (askedTwice ++ [.operation (.close 1)])
        { files := secretFiles }).loaders.boundary? 1).map Boundary.isClosed = some true := by
      decide +kernel
    obtain ⟨boundary, hboundary, shut⟩ := Option.map_eq_some_iff.1 hshut
    have here := get?_of_boundary? hboundary
    obtain ⟨-, closes, none, -⟩ := System.interact_stocked rfl _ 1 boundary here
    exact ⟨boundary, here, closes.1 shut, none shut⟩

end Isolation
