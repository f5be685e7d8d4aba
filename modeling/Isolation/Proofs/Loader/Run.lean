import Isolation.Proofs.Loader.Made

/-!
# Runs of loaders

Hosts and boundaries are built, asked and closed in any order, while the files change in between.
Any tree of boundaries can be built in this way, and loaders may be asked before all of it stands.

## Main definitions

* `Operation` — what is done to loaders, and `Operation.perform`
* `System.run` — one operation after the other
* `Operation.quiet` — operations that neither close a loader nor change files
* `Loaders.Step` — what such an operation does to the loaders

## Main results

* `Operation.perform_step` — every quiet operation is such a step
* `System.run_layered` — all loaders that are built are answered by the rules
-/

namespace Isolation

/-- What is done to loaders from outside. -/
inductive Operation
  | host (archives : List Archive) (registry : Registry) (context : StoreId)
  | boundary (policy : Policy) (parent : LoaderRef) (registry : Registry)
  | request (ref : LoaderRef) (symbol : String)
  | close (ref : LoaderRef)
  | changeFiles (files : FileSystem)

namespace Operation

/-- The system after an operation. A boundary is built only below a loader that is there. -/
def perform : Operation → System → System
  | host archives registry context, system => (system.makeHost archives registry context).2
  | boundary policy parent registry, system =>
    if parent < system.loaders.list.length then (system.makeBoundary policy parent registry).2
    else system
  | request ref symbol, system => (system.resolve ref symbol).2
  | close ref, system => { system with loaders := system.loaders.close ref }
  | changeFiles files, system => { system with files }

/-- Whether an operation leaves the files alone and closes nothing. -/
def quiet : Operation → Bool
  | host .. | boundary .. | request .. => true
  | close _ | changeFiles _ => false

end Operation

/-- The system after several operations. -/
def System.run (operations : List Operation) (system : System) : System :=
  operations.foldl (fun system operation => operation.perform system) system

theorem System.run_append (first second : List Operation) (system : System) :
    system.run (first ++ second) = (system.run first).run second :=
  List.foldl_append

/-- What every operation preserves, every run preserves. -/
theorem System.run_invariant {P : System → Prop} {operations : List Operation} {system : System}
    (start : P system)
    (step : ∀ operation ∈ operations, ∀ system, P system → P (operation.perform system)) :
    P (system.run operations) := by
  induction operations generalizing system with
  | nil => exact start
  | cons operation rest ih =>
    exact ih (step operation List.mem_cons_self system start)
      fun other hother => step other (List.mem_cons_of_mem operation hother)

namespace Loaders

variable {files : FileSystem} {symbol name : String} {loaders after : Loaders}
  {ref other : LoaderRef}

/-- The loaders with one more, which takes the next number. -/
def extend (loaders : Loaders) (loader : Loader) : Loaders :=
  { loaders with list := loaders.list ++ [loader], nextId := loaders.nextId + 1 }

/-- A loader as it is when it is built. -/
inductive Built (files : FileSystem) (loaders : Loaders) : Loader → Prop
  | host {archives opened registry context} (opens : openAll files archives = .ok opened) :
      Built files loaders
        (.host { id := ⟨loaders.nextId⟩, archives, opened, registry, context })
  | boundary {policy parent above isolated registry context}
      (below : loaders.get? parent = some above)
      (opens : openAll files policy.archives = .ok isolated) :
      Built files loaders
        (.boundary {
          id := ⟨loaders.nextId⟩, policy, parent, parentId := above.id
          searchPath := policy.archives ++ above.archives, sets := some { isolated }, registry
          context })

/-- What operations do to loaders that are not closed while the files stay as they are: loaders are
built, or fail to be built and may take a number, or they are asked. -/
inductive Step (files : FileSystem) (loaders : Loaders) : Loaders → Prop
  | idle {nextId} (le : loaders.nextId ≤ nextId) : Step files loaders { loaders with nextId }
  | built {loader} (new : Built files loaders loader) : Step files loaders (loaders.extend loader)
  | asked {symbol ref answer after} (answers : Answers files symbol loaders ref answer after) :
      Step files loaders after

theorem get?_extend (loader : Loader) :
    (loaders.extend loader).get? ref =
      if ref = loaders.list.length then some loader else loaders.get? ref := by
  simp only [extend, get?, List.getElem?_append]
  by_cases h : ref = loaders.list.length
  · simp [h]
  · rw [if_neg h]
    by_cases hlt : ref < loaders.list.length
    · rw [if_pos hlt]
    · have hgt := Nat.lt_of_le_of_ne (Nat.le_of_not_lt hlt) (Ne.symm h)
      rw [if_neg hlt, List.getElem?_eq_none_iff.2 (Nat.le_of_not_lt hlt),
        List.getElem?_eq_none_iff.2 (Nat.sub_pos_of_lt hgt)]

theorem get?_extend_self (loader : Loader) :
    (loaders.extend loader).get? loaders.list.length = some loader := by
  rw [get?_extend, if_pos rfl]

theorem get?_extend_of_some {loader old : Loader} (here : loaders.get? ref = some old) :
    (loaders.extend loader).get? ref = some old := by
  rw [get?_extend, if_neg (Nat.ne_of_lt (get?_eq_some_lt here)), here]

/-- New loaders have made nothing yet. -/
theorem Built.made?_extend {loader : Loader} (new : Built files loaders loader) :
    (loaders.extend loader).made? ref name = loaders.made? ref name := by
  rw [made?, get?_extend]
  split
  · next h =>
    -- there was no loader at the place of the new one, whose cache is empty
    have hnone : loaders.get? ref = none := List.getElem?_eq_none_iff.2 (Nat.le_of_eq h.symm)
    rw [made?, hnone, Option.bind_none, Option.bind_some]
    cases new <;> rfl
  · rfl

theorem Built.id_eq {loader : Loader} (new : Built files loaders loader) :
    loader.id = ⟨loaders.nextId⟩ := by
  cases new <;> rfl

theorem Layered.extend {loader : Loader} (layered : loaders.Layered)
    (new : Built files loaders loader) : (loaders.extend loader).Layered where
  not_relay {ref relay} here := by
    rw [get?_extend] at here
    split at here
    · cases new <;> cases here
    · exact layered.not_relay here
  parent_lt {ref boundary} here := by
    rw [get?_extend] at here
    split at here
    · next h =>
      cases new with
      | host => cases here
      | boundary below =>
        cases here
        -- a boundary is built below a loader that is there, hence before it in the list
        exact h ▸ get?_eq_some_lt below
    · exact layered.parent_lt here

theorem Layered.step (layered : loaders.Layered) (h : Step files loaders after) :
    after.Layered := by
  cases h with
  | idle le => exact ⟨layered.not_relay, layered.parent_lt⟩
  | built new => exact layered.extend new
  | asked answers => exact layered.of_frame (answers.frame_eq layered)

theorem Step.length_le (layered : loaders.Layered) (h : Step files loaders after) :
    loaders.list.length ≤ after.list.length := by
  cases h with
  | idle le => exact Nat.le_refl _
  | built new => exact List.length_append ▸ Nat.le_add_right _ _
  | asked answers => exact Nat.le_of_eq (length_eq_of_frame (answers.frame_eq layered)).symm

theorem get?_close :
    (loaders.close ref).get? other =
      if other = ref then (loaders.get? ref).map Loader.close else loaders.get? other := by
  rw [close]
  cases here : loaders.get? ref with
  | none =>
    simp only [Option.map_none]
    split
    · next h => rw [h, here]
    · rfl
  | some loader => exact get?_set (get?_eq_some_lt here) loader.close

theorem Layered.close (layered : loaders.Layered) : (loaders.close ref).Layered where
  not_relay {other relay} here := by
    rw [get?_close] at here
    split at here
    · obtain ⟨loader, hloader, heq⟩ := Option.map_eq_some_iff.1 here
      cases loader with
      | host | boundary => cases heq
      | relay r => exact layered.not_relay hloader
    · exact layered.not_relay here
  parent_lt {other boundary} here := by
    rw [get?_close] at here
    split at here
    · next h =>
      obtain ⟨loader, hloader, heq⟩ := Option.map_eq_some_iff.1 here
      cases loader with
      | host | relay => cases heq
      | boundary b =>
        cases heq
        have hlt : b.parent < ref := layered.parent_lt hloader
        exact h ▸ hlt
    · exact layered.parent_lt here

theorem layered_nil (empty : loaders.list = []) : loaders.Layered where
  not_relay {ref relay} here := by cases (get?_nil empty ref).symm.trans here
  parent_lt {ref boundary} here := by cases (get?_nil empty ref).symm.trans here

end Loaders

open Loaders

theorem System.makeHost_step (system : System) (archives : List Archive) (registry : Registry)
    (context : StoreId) :
    (system.makeHost archives registry context).2.files = system.files ∧
      Step system.files system.loaders (system.makeHost archives registry context).2.loaders := by
  rw [makeHost]
  cases opens : openAll system.files archives with
  | error error => exact ⟨rfl, .idle (Nat.le_refl _)⟩
  | ok opened => exact ⟨rfl, .built (.host opens)⟩

/-- The boundary that is built below a loader, by a policy whose archives are open. -/
def System.boundaryBelow (system : System) (effective : Policy) (parent : LoaderRef)
    (isolated : List OpenArchive) (registry : Registry) (context : StoreId) : Boundary :=
  let above := system.loaders.get? parent
  { id := system.loaders.takeId.1, policy := effective, parent
    parentId := (above.map Loader.id).getD system.loaders.takeId.1
    searchPath := effective.archives ++ (above.map Loader.archives).getD []
    sets := some { isolated }, registry, context }

/-- Discovered packages change nothing about the archives of a policy. -/
theorem System.archives_of_effectivePolicy {files : FileSystem} {policy effective : Policy}
    (h : System.effectivePolicy files policy = .ok effective) :
    effective.archives = policy.archives := by
  rw [effectivePolicy] at h
  split at h
  · cases hscan : scan files policy.archives policy.ignores .packages with
    | error error =>
      rw [hscan] at h
      cases h
    | ok packages =>
      rw [hscan] at h
      cases h
      rfl
  · cases h
    rfl

/-- A boundary is built if its packages can be discovered and its archives be opened, with a store
that was there or is new. -/
theorem System.exists_makeBoundary {system : System} {policy effective : Policy}
    {isolated : List OpenArchive} (parent : LoaderRef) (registry : Registry)
    (discovers : effectivePolicy system.files policy = .ok effective)
    (opens : openAll system.files effective.archives = .ok isolated) :
    ∃ context stores, (stores = system.stores ∨ stores = system.stores.make.2) ∧
      system.makeBoundary policy parent registry =
        (.ok system.loaders.list.length,
          { system with
            stores
            loaders := (system.loaders.takeId.2.add (.boundary
              (system.boundaryBelow effective parent isolated registry context))).2 }) := by
  simp only [makeBoundary, discovers, opens]
  split
  · exact ⟨_, _, .inl rfl, rfl⟩
  · exact ⟨_, _, .inr rfl, rfl⟩

/-- Either no boundary is built, which takes a number all the same, or one is, with a store that was
there or is new. -/
theorem System.makeBoundary_cases (system : System) (policy : Policy) (parent : LoaderRef)
    (registry : Registry) :
    (∃ error, system.makeBoundary policy parent registry =
      (.error error, { system with loaders := system.loaders.takeId.2 })) ∨
    ∃ effective isolated context stores,
      effectivePolicy system.files policy = .ok effective ∧
      openAll system.files effective.archives = .ok isolated ∧
      (stores = system.stores ∨ stores = system.stores.make.2) ∧
      system.makeBoundary policy parent registry =
        (.ok system.loaders.list.length,
          { system with
            stores
            loaders := (system.loaders.takeId.2.add (.boundary
              (system.boundaryBelow effective parent isolated registry context))).2 }) := by
  cases discovers : effectivePolicy system.files policy with
  | error error =>
    refine .inl ⟨.undiscovered error, ?_⟩
    simp only [makeBoundary, discovers]
  | ok effective =>
    cases opens : openAll system.files effective.archives with
    | error error =>
      refine .inl ⟨.unopened error, ?_⟩
      simp only [makeBoundary, discovers, opens]
    | ok isolated =>
      obtain ⟨context, stores, hstores, hmake⟩ :=
        exists_makeBoundary parent registry discovers opens
      exact .inr ⟨effective, isolated, context, stores, rfl, opens, hstores, hmake⟩

theorem System.makeBoundary_step (system : System) (policy : Policy) {parent : LoaderRef}
    (registry : Registry) (h : parent < system.loaders.list.length) :
    (system.makeBoundary policy parent registry).2.files = system.files ∧
      Step system.files system.loaders (system.makeBoundary policy parent registry).2.loaders := by
  obtain ⟨above, below⟩ : ∃ above, system.loaders.get? parent = some above :=
    ⟨_, List.getElem?_eq_getElem h⟩
  obtain ⟨error, hmake⟩ | ⟨effective, isolated, context, stores, -, opens, -, hmake⟩ :=
    system.makeBoundary_cases policy parent registry
  · rw [hmake]
    exact ⟨rfl, .idle (Nat.le_succ _)⟩
  · rw [hmake, boundaryBelow, below]
    exact ⟨rfl, .built (.boundary below opens)⟩

/-- Who is there stays as it is when a host is built, and when a boundary is. -/
theorem System.makeHost_get? {system : System} {ref : LoaderRef} {loader : Loader}
    (archives : List Archive) (registry : Registry) (context : StoreId)
    (here : system.loaders.get? ref = some loader) :
    (system.makeHost archives registry context).2.loaders.get? ref = some loader := by
  rw [makeHost]
  split
  · exact here
  · exact get?_extend_of_some here

theorem System.makeBoundary_get? {system : System} {ref : LoaderRef} {loader : Loader}
    (policy : Policy) (parent : LoaderRef) (registry : Registry)
    (here : system.loaders.get? ref = some loader) :
    (system.makeBoundary policy parent registry).2.loaders.get? ref = some loader := by
  obtain ⟨error, hmake⟩ | ⟨effective, isolated, context, stores, -, -, -, hmake⟩ :=
    system.makeBoundary_cases policy parent registry
  · rw [hmake]
    exact here
  · rw [hmake]
    exact get?_extend_of_some here

/-- A request goes by the rules, unless no such loader is there. -/
theorem System.resolve_cases {system : System} (layered : system.loaders.Layered) (ref : LoaderRef)
    (symbol : String) :
    (system.resolve ref symbol).2.loaders = system.loaders ∨
      ∃ answer, Answers system.files symbol system.loaders ref answer
        (system.resolve ref symbol).2.loaders := by
  by_cases href : ref < system.loaders.list.length
  · obtain ⟨answer, after, hresolve, answers⟩ := layered.answers system.files symbol href
    rw [System.resolve, hresolve]
    exact .inr ⟨answer, answers⟩
  · rw [System.resolve, Loaders.resolve, get?_eq_none href]
    exact .inl rfl

/-- A request changes the units of loaders and opens search paths, and nothing else about them. -/
theorem System.resolve_frame {system : System} (layered : system.loaders.Layered) (ref : LoaderRef)
    (symbol : String) :
    (system.resolve ref symbol).2.loaders.frame = system.loaders.frame := by
  obtain hsame | ⟨answer, answers⟩ := System.resolve_cases layered ref symbol
  · rw [hsame]
  · exact answers.frame_eq layered

theorem System.resolve_step {system : System} (layered : system.loaders.Layered) (ref : LoaderRef)
    (symbol : String) :
    (system.resolve ref symbol).2.files = system.files ∧
      Step system.files system.loaders (system.resolve ref symbol).2.loaders := by
  refine ⟨rfl, ?_⟩
  obtain hsame | ⟨answer, answers⟩ := System.resolve_cases layered ref symbol
  · rw [hsame]
    exact .idle (Nat.le_refl _)
  · exact .asked answers

/-- An explanation leaves behind what the request leaves behind. -/
theorem System.explain_snd (system : System) (ref : LoaderRef) (symbol : String) :
    (system.explain ref symbol).2 = (system.resolve ref symbol).2 := by
  rw [System.explain]
  split
  · next h => rw [h]
  · next h => rw [h]

/-- Operations that neither close a loader nor change files, all at once. -/
theorem Operation.perform_step {operation : Operation} (h : operation.quiet = true)
    {system : System} (layered : system.loaders.Layered) :
    (operation.perform system).files = system.files ∧
      Step system.files system.loaders (operation.perform system).loaders := by
  cases operation with
  | host archives registry context => exact system.makeHost_step archives registry context
  | boundary policy parent registry =>
    rw [perform]
    split
    · next hparent => exact system.makeBoundary_step policy registry hparent
    · exact ⟨rfl, .idle (Nat.le_refl _)⟩
  | request ref symbol => exact System.resolve_step layered ref symbol
  | close | changeFiles => cases h

/-- What is true of the loaders as they are, after each step and after closing, is true after an
operation. -/
theorem Operation.perform_loaders {P : Loaders → Prop} (operation : Operation) {system : System}
    (layered : system.loaders.Layered) (same : P system.loaders)
    (step : ∀ {after}, Step system.files system.loaders after → P after)
    (close : ∀ ref, P (system.loaders.close ref)) : P (operation.perform system).loaders := by
  by_cases h : operation.quiet = true
  · exact step (perform_step h layered).2
  · cases operation with
    | host | boundary | request => exact absurd rfl h
    | close ref => exact close ref
    | changeFiles files => exact same

theorem Operation.perform_layered (operation : Operation) {system : System}
    (layered : system.loaders.Layered) : (operation.perform system).loaders.Layered :=
  operation.perform_loaders layered layered layered.step fun _ => layered.close

/-- Loaders are never taken away. -/
theorem Operation.length_le_perform (operation : Operation) {system : System}
    (layered : system.loaders.Layered) :
    system.loaders.list.length ≤ (operation.perform system).loaders.list.length := by
  refine operation.perform_loaders layered (Nat.le_refl _) (Step.length_le layered) fun ref => ?_
  rw [Loaders.close]
  split
  · exact Nat.le_of_eq List.length_set.symm
  · exact Nat.le_refl _

/-- Whatever is done, all loaders stay hosts and boundaries that come after their parents. -/
theorem System.run_layered (operations : List Operation) {system : System}
    (layered : system.loaders.Layered) : (system.run operations).loaders.Layered :=
  run_invariant (P := fun system => system.loaders.Layered) layered
    fun operation _ _ h => operation.perform_layered h

/-- What steps and closing preserve, every run preserves. -/
theorem System.run_loaders {P : Loaders → Prop} {operations : List Operation} {system : System}
    (layered : system.loaders.Layered) (start : P system.loaders)
    (step : ∀ {files loaders after}, loaders.Layered → P loaders → Step files loaders after →
      P after)
    (close : ∀ {loaders} ref, P loaders → P (loaders.close ref)) :
    P (system.run operations).loaders :=
  (run_invariant (P := fun system => system.loaders.Layered ∧ P system.loaders) ⟨layered, start⟩
    fun operation _ _ h => ⟨operation.perform_layered h.1,
      operation.perform_loaders h.1 h.2 (step h.1 h.2) fun ref => close ref h.2⟩).2

/-- The unit that was found, if one was. -/
def unitOf? : Attempt (Except ResolveError LoadedUnit) → Option LoadedUnit
  | .done (.ok unit) => some unit
  | _ => none

theorem eq_of_unitOf? {answer : Attempt (Except ResolveError LoadedUnit)} {unit : LoadedUnit}
    (h : unitOf? answer = some unit) : answer = .done (.ok unit) := by
  cases answer with
  | crashed crash => cases h
  | done result =>
    cases result with
    | error error => cases h
    | ok found =>
      cases h
      rfl

/-- The error that was answered, if one was. -/
def errorOf? : Attempt (Except ResolveError LoadedUnit) → Option ResolveError
  | .done (.error error) => some error
  | _ => none

theorem eq_of_errorOf? {answer : Attempt (Except ResolveError LoadedUnit)} {error : ResolveError}
    (h : errorOf? answer = some error) : answer = .done (.error error) := by
  cases answer with
  | crashed crash => cases h
  | done result =>
    cases result with
    | error other =>
      cases h
      rfl
    | ok found => cases h

/-- A directory that holds one unit. -/
def oneUnit : FileSystem :=
  { root := .directory [("lib", .directory [("A.unit", .file [1])])], working := [] }

/-- A host on that directory, and a boundary that leaves all names to it. -/
def hostAndBoundary : List Operation :=
  [.host [.directory "lib"] .empty processStore, .boundary {} 0 .empty]

end Isolation
