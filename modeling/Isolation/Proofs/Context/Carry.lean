import Isolation.Proofs.Context.Store

/-!
# Contexts that are carried across

What the operations on stores do to the contexts of one thread, store by store. Marshaling changes
nothing, so carrying a context in copies what it starts from, and carrying its outputs out sets
them in the context of the host.

## Main definitions

* `Stores.context?` — the context of a thread in a store
* `Stores.puts` — the stores after several outputs are set in one context
* `Context.setting` — a context in which outputs were set

## Main results

* `Stores.propagateIn_eq` — a context is carried in, or refused where there is one already
* `Stores.context?_propagateOut` — the context that was carried in ends, and the host gets its
  outputs
* `Stores.contexts_lossless` — nothing is lost in the bytes, so that carrying never fails for them
-/

namespace Isolation

/-- A context after several outputs were set in it. -/
def Context.setting (context : Context) (writes : List (String × String)) : Context :=
  { context with output := context.output.insertAll writes }

namespace Context

@[simp] theorem setting_nil (context : Context) : context.setting [] = context := rfl

theorem setting_append (context : Context) (writes more : List (String × String)) :
    context.setting (writes ++ more) = (context.setting writes).setting more := by
  simp [setting, StringMap.insertAll_append]

end Context

namespace Store

variable {store : Store} {thread other : ThreadId}

theorem current?_setContext (context : Context) :
    (store.setContext thread context).current? other =
      if other = thread then some context else store.current? other := by
  rw [current?, setContext, ThreadMap.get?_set]
  rfl

end Store

namespace Stores

variable {stores : Stores} {id other host boundary : StoreId} {thread : ThreadId}
  {context : Context}

/-- The context of a thread in a store. -/
def context? (stores : Stores) (id : StoreId) (thread : ThreadId) : Option Context :=
  (stores.get id).current? thread

theorem isActive_eq : (stores.get id).isActive thread = (stores.context? id thread).isSome := rfl

theorem context?_set_of_ne (h : other ≠ id) (store : Store) :
    (stores.set id store).context? other thread = stores.context? other thread := by
  rw [context?, get_set_of_ne h, context?]

theorem context?_set_self (store : Store) :
    (stores.set id store).context? id thread = store.current? thread := by
  rw [context?, get_set_self]

/-! ### Outputs -/

theorem context?_changeOutput_self (change : StringMap String → StringMap String) :
    (stores.change id (·.changeOutput thread change)).2.context? id thread =
      (stores.context? id thread).map fun context =>
        { context with output := change context.output } := by
  cases hcontext : stores.context? id thread with
  | none =>
    have hnone : (stores.get id).current? thread = none := hcontext
    simp [Stores.change, Store.changeOutput, hnone, hcontext]
  | some context =>
    have hsome : (stores.get id).current? thread = some context := hcontext
    simp [Stores.change, Store.changeOutput, hsome, context?_set_self,
      Store.current?_setContext]

theorem get_change_of_ne (h : other ≠ id) (operation : Store → Except ContextError Store) :
    (stores.change id operation).2.get other = stores.get other := by
  rw [change]
  split
  · exact get_set_of_ne h _
  · rfl

/-- The stores after a thread set several outputs, one after the other, in its context. -/
def puts (stores : Stores) (thread : ThreadId) (id : StoreId) (writes : List (String × String)) :
    Stores :=
  writes.foldl (fun stores write => (stores.change id (·.put thread write.1 write.2)).2) stores

theorem puts_append (writes more : List (String × String)) :
    stores.puts thread id (writes ++ more) = (stores.puts thread id writes).puts thread id more :=
  List.foldl_append

theorem get_puts_of_ne (h : other ≠ id) (writes : List (String × String)) :
    (stores.puts thread id writes).get other = stores.get other := by
  induction writes generalizing stores with
  | nil => rfl
  | cons write writes ih =>
    exact ih.trans (get_change_of_ne h _)

theorem context?_puts_of_ne (h : other ≠ id) (writes : List (String × String)) :
    (stores.puts thread id writes).context? other thread = stores.context? other thread := by
  rw [context?, get_puts_of_ne h, context?]

theorem context?_puts_self (writes : List (String × String)) :
    (stores.puts thread id writes).context? id thread =
      (stores.context? id thread).map (·.setting writes) := by
  induction writes generalizing stores with
  | nil => simp [puts]
  | cons write writes ih =>
    have hfirst : (stores.change id (·.put thread write.1 write.2)).2.context? id thread =
        (stores.context? id thread).map (·.setting [write]) := context?_changeOutput_self _
    have hrest : (stores.puts thread id (write :: writes)).context? id thread =
        ((stores.change id (·.put thread write.1 write.2)).2.context? id thread).map
          (·.setting writes) := ih
    rw [hrest, hfirst, Option.map_map]
    rfl

theorem keeps_puts (writes : List (String × String)) :
    Keeps thread stores (stores.puts thread id writes) := by
  induction writes generalizing stores with
  | nil => exact .refl thread stores
  | cons write writes ih =>
    have hfirst : Keeps thread stores (stores.change id (·.put thread write.1 write.2)).2 :=
      keeps_change fun h => Store.isActive_of_changeOutput h
    exact hfirst.trans ih

/-! ### Ends of contexts -/

theorem context?_erase (store : Store) :
    ({ store with contexts := store.contexts.erase thread } : Store).current? thread = none := by
  simp [Store.current?, ThreadMap.get?_erase]

theorem stop_of_context? (h : stores.context? id thread = some context) :
    stores.stop id thread = (.ok context.output, stores.set id
      { stores.get id with contexts := (stores.get id).contexts.erase thread }) := by
  have hsome : (stores.get id).current? thread = some context := h
  simp [stop, Store.stop, hsome]

theorem stop_of_none (h : stores.context? id thread = none) :
    stores.stop id thread = (.error .notActive, stores) := by
  have hnone : (stores.get id).current? thread = none := h
  simp [stop, Store.stop, hnone]

/-- Whether or not a context was there, there is none after it was ended. -/
theorem context?_stop_self : (stores.stop id thread).2.context? id thread = none := by
  cases h : stores.context? id thread with
  | none => rw [stop_of_none h, h]
  | some context => rw [stop_of_context? h, context?_set_self, context?_erase]

theorem context?_stop_of_ne (h : other ≠ id) :
    (stores.stop id thread).2.context? other thread = stores.context? other thread := by
  rw [context?, get_stop_of_ne h, context?]

/-! ### Carrying in and out -/

theorem propagateIn_self : stores.propagateIn thread host host = (.ok false, stores) := by
  simp [propagateIn]

/-- Without a context of the host there is nothing to carry in. -/
theorem propagateIn_of_none (h : stores.context? host thread = none) :
    stores.propagateIn thread host boundary = (.ok false, stores) := by
  have hnone : (stores.get host).snapshot? thread = none := by
    rw [Store.snapshot?, show (stores.get host).current? thread = none from h, Option.map_none]
  by_cases hsame : host = boundary
  · simp [propagateIn, hsame]
  · simp [propagateIn, hsame, hnone]

/-- A context is carried into another store as it is, less its outputs, unless there is one already,
which then stays as it is. -/
theorem propagateIn_eq (different : host ≠ boundary) (h : stores.context? host thread = some context) :
    stores.propagateIn thread host boundary =
      match stores.context? boundary thread with
      | some _ => (.error (.context .alreadyActive), stores)
      | none => (.ok true,
          stores.set boundary
            ((stores.get boundary).setContext thread (.ofSnapshot context.snapshot))) := by
  have hsnapshot : (stores.get host).snapshot? thread = some context.snapshot := by
    rw [Store.snapshot?, show (stores.get host).current? thread = some context from h,
      Option.map_some]
  simp only [propagateIn, if_neg different, hsnapshot, Snapshot.decode_encode, change, Store.start,
    context?]
  cases (stores.get boundary).current? thread <;> rfl

/-- There is nothing else that can go wrong. -/
theorem propagateIn_error {error : PropagateError} {after : Stores}
    (h : stores.propagateIn thread host boundary = (.error error, after)) :
    error = .context .alreadyActive ∧ after = stores ∧ host ≠ boundary ∧
      ∃ context, stores.context? boundary thread = some context := by
  have different : host ≠ boundary := by
    rintro rfl
    rw [propagateIn_self] at h
    cases h
  cases hhost : stores.context? host thread with
  | none =>
    rw [propagateIn_of_none hhost] at h
    cases h
  | some context =>
    rw [propagateIn_eq different hhost] at h
    cases hboundary : stores.context? boundary thread with
    | none =>
      rw [hboundary] at h
      cases h
    | some there =>
      rw [hboundary] at h
      cases h
      exact ⟨rfl, rfl, different, there, rfl⟩

theorem propagateIn_true {after : Stores}
    (h : stores.propagateIn thread host boundary = (.ok true, after)) :
    host ≠ boundary ∧ stores.context? boundary thread = none ∧
      ∃ context, stores.context? host thread = some context ∧
        after = stores.set boundary
          ((stores.get boundary).setContext thread (.ofSnapshot context.snapshot)) := by
  have different : host ≠ boundary := by
    rintro rfl
    rw [propagateIn_self] at h
    cases h
  cases hhost : stores.context? host thread with
  | none =>
    rw [propagateIn_of_none hhost] at h
    cases h
  | some context =>
    rw [propagateIn_eq different hhost] at h
    cases hboundary : stores.context? boundary thread with
    | some there =>
      rw [hboundary] at h
      cases h
    | none =>
      rw [hboundary] at h
      cases h
      exact ⟨different, rfl, context, rfl, rfl⟩

/-- The outputs of a context; none if it is not there. -/
def outputsOf (context : Option Context) : StringMap String :=
  (context.map Context.output).getD ∅

/-- Carrying outputs out ends the context inside, if it is there, and then sets its outputs in the
context outside. -/
theorem propagateOut_snd (different : host ≠ boundary) :
    (stores.propagateOut thread host boundary).2 =
      match stores.context? boundary thread with
      | none => stores
      | some inside =>
        ((stores.stop boundary thread).2.change host (·.merge thread inside.output)).2 := by
  simp only [propagateOut, if_neg different]
  cases hinside : stores.context? boundary thread with
  | none => rw [stop_of_none hinside]
  | some inside =>
    rw [stop_of_context? hinside]
    simp only [decodeOutputs_encodeOutputs]
    split <;> simp_all

/-- After outputs were carried out there is no context inside, the outputs of the host are
overridden, and all other contexts are as they were. -/
theorem context?_propagateOut (different : host ≠ boundary) :
    (stores.propagateOut thread host boundary).2.context? id thread =
      if id = boundary then none
      else if id = host then
        (stores.context? host thread).map fun context =>
          { context with
            output := context.output.override (outputsOf (stores.context? boundary thread)) }
      else stores.context? id thread := by
  rw [propagateOut_snd different]
  cases hinside : stores.context? boundary thread with
  | none =>
    have hsame : ∀ context : Context, { context with
        output := context.output.override (outputsOf none) } = context := fun _ => rfl
    simp only [hsame]
    by_cases hid : id = boundary
    · simp [hid, hinside]
    · by_cases hhost : id = host
      · simp [hhost, different]
      · simp [hid, hhost]
  | some inside =>
    have hmerge : ((stores.stop boundary thread).2.change host
        (·.merge thread inside.output)).2.context? host thread =
          ((stores.stop boundary thread).2.context? host thread).map fun context =>
            { context with output := context.output.override inside.output } :=
      context?_changeOutput_self _
    simp only
    by_cases hhost : id = host
    · subst hhost
      rw [hmerge, context?_stop_of_ne different, if_neg different, if_pos rfl]
      rfl
    -- the store of the host is the only one that the second step changes
    · rw [context?, get_change_of_ne hhost, if_neg hhost, ← context?]
      by_cases hid : id = boundary
      · rw [hid, context?_stop_self, if_pos rfl]
      · rw [context?_stop_of_ne hid, if_neg hid]

/-- Carrying outputs out fails only if a context is missing, inside or outside. -/
theorem propagateOut_error {error : PropagateError} {after : Stores}
    (h : stores.propagateOut thread host boundary = (.error error, after)) :
    error = .context .notActive ∧ host ≠ boundary ∧
      (stores.context? boundary thread = none ∨ stores.context? host thread = none) := by
  have different : host ≠ boundary := by
    rintro rfl
    simp [propagateOut] at h
  simp only [propagateOut, if_neg different] at h
  cases hinside : stores.context? boundary thread with
  | none =>
    rw [stop_of_none hinside] at h
    cases h
    exact ⟨rfl, different, .inl rfl⟩
  | some inside =>
    have hhost : (stores.stop boundary thread).2.context? host thread =
        stores.context? host thread := context?_stop_of_ne different
    rw [stop_of_context? hinside] at h hhost
    simp only [decodeOutputs_encodeOutputs, change, Store.merge, Store.changeOutput] at h
    rw [context?] at hhost
    simp only at hhost
    rw [hhost] at h
    cases houtside : stores.context? host thread with
    | none =>
      rw [houtside] at h
      cases h
      exact ⟨rfl, different, .inr rfl⟩
    | some outside =>
      rw [houtside] at h
      cases h

/-- What a context starts from and its outputs come out of the bytes as they went in, whatever texts
they are made of, and different ones make different bytes. So carrying contexts in and out never
fails in the bytes. -/
theorem contexts_lossless :
    Envelope.Lossless Snapshot.encode Snapshot.decode ∧
      Envelope.Lossless encodeOutputs decodeOutputs ∧
      ∀ (stores : Stores) (thread : ThreadId) (host boundary : StoreId) (error : MarshalError),
        (stores.propagateIn thread host boundary).1 ≠ .error (.marshal error) ∧
          (stores.propagateOut thread host boundary).1 ≠ .error (.marshal error) := by
  refine ⟨Envelope.lossless_of_decoded Snapshot.decode_encode,
    Envelope.lossless_of_decoded decodeOutputs_encodeOutputs, fun stores thread host boundary error =>
      ⟨fun h => ?_, fun h => ?_⟩⟩
  · obtain ⟨hcontext, -⟩ := propagateIn_error (Prod.ext h rfl)
    cases hcontext
  · obtain ⟨hcontext, -⟩ := propagateOut_error (Prod.ext h rfl)
    cases hcontext

end Stores

end Isolation
