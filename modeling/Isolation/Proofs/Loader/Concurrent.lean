import Isolation.Proofs.Loader.Calls
import Isolation.Proofs.Loader.Run

/-!
# Requests that interleave

Any number of requests to a boundary and closings of it, interleaved in any way, still make at most
one unit for each name, and nothing is made or answered any more once the boundary is closed.

The boundary and the parent share the names among themselves: what the boundary makes it was asked
for in isolation, or the parent lacks it. So there is at most one unit to answer a name with, as
long as the boundary is open.

## Main definitions

* `Loaders.Sound` — what answers and calls under way tell of the boundary and its parent

## Main results

* `Loaders.Sound.exists_step` — every step keeps what is known of the calls
* `Loaders.Calls.run_once` — at most one unit for each name, and none after a closing
-/

namespace Isolation

namespace Loaders

section Steps

variable {files : FileSystem} {ref : LoaderRef} {loaders : Loaders} {boundary boundary' : Boundary}
  {host host' : Host} {serial serial' : Nat} {call call' : Call} {symbol : String}
  {unit other : LoadedUnit} {state : Calls}

/-! ### What calls tell -/

/-- The boundary or the host has a unit for a name, and will answer with it as long as the boundary
is open. -/
def Held (boundary : Boundary) (host : Host) (symbol : String) (unit : LoadedUnit) : Prop :=
  boundary.cache.find? symbol = some unit ∨
    boundary.policy.route symbol ≠ .isolated ∧ host.cache.find? symbol = some unit

/-- The boundary has made units only for names that its parent was not asked for, or that its parent
lacks. Once it is closed it has none. -/
structure Proper (files : FileSystem) (boundary : Boundary) (host : Host) : Prop where
  cached : ∀ symbol unit, boundary.cache.find? symbol = some unit →
    boundary.policy.route symbol = .isolated ∨ Lacks files host symbol
  emptied : boundary.isClosed = true → boundary.cache = ∅

/-- What the place of a call tells of the boundary and its parent. -/
def Call.Fits (files : FileSystem) (boundary : Boundary) (host : Host) : Call → Prop
  | starting _ => True
  | isolating symbol => boundary.policy.route symbol = .isolated
  | looking symbol => boundary.policy.route symbol = .delegated
  | asking symbol => boundary.policy.route symbol ≠ .isolated
  | checking symbol unit =>
    boundary.policy.route symbol ≠ .isolated ∧ host.cache.find? symbol = some unit
  | falling symbol => Lacks files host symbol
  | finished symbol answer => ∀ unit, answer = .done (.ok unit) → boundary.isClosed = false →
    Held boundary host symbol unit
  | closing => True
  | closed => boundary.isClosed = true

theorem Call.Fits.held (h : (finished symbol (.done (.ok unit))).Fits files boundary host)
    (unshut : boundary.isClosed = false) : Held boundary host symbol unit :=
  h unit rfl unshut

/-- What the boundary has made, the host has not. -/
theorem Proper.apart (proper : Proper files boundary host)
    (mine : boundary.cache.find? symbol = some unit)
    (route : boundary.policy.route symbol ≠ .isolated) : host.cache.find? symbol ≠ some other := by
  intro theirs
  obtain isolated | lacks := proper.cached symbol unit mine
  · exact route isolated
  · exact absurd (theirs.symm.trans lacks.1) (by simp)

theorem Held.eq (proper : Proper files boundary host) (h : Held boundary host symbol unit)
    (h' : Held boundary host symbol other) : unit = other := by
  obtain h | ⟨route, h⟩ := h <;> obtain h' | ⟨route', h'⟩ := h'
  · exact Option.some.inj (h.symm.trans h')
  · exact absurd h' (proper.apart h route')
  · exact absurd h (proper.apart h' route)
  · exact Option.some.inj (h.symm.trans h')

/-- A step loses nothing but what a closing drops. -/
structure Extends (files : FileSystem) (boundary boundary' : Boundary) (host host' : Host) :
    Prop where
  policy : boundary'.policy = boundary.policy
  hostCache : ∀ {symbol unit}, host.cache.find? symbol = some unit →
    host'.cache.find? symbol = some unit
  lacks : ∀ {symbol}, Lacks files host symbol → Lacks files host' symbol
  unshut : boundary'.isClosed = false → boundary.isClosed = false
  cache : boundary'.isClosed = false → ∀ {symbol unit}, boundary.cache.find? symbol = some unit →
    boundary'.cache.find? symbol = some unit

theorem find?_insert_of_unknown {cache : StringMap LoadedUnit} {known : LoadedUnit} {name : String}
    (unknown : cache.find? symbol = none) (h : cache.find? name = some known) :
    (cache.insert symbol unit).find? name = some known := by
  rw [StringMap.find?_insert, if_neg, h]
  rintro rfl
  exact absurd (h.symm.trans unknown) (by simp)

theorem Moves.extends
    (moves : Moves files boundary host serial call call' boundary' host' serial') :
    Extends files boundary boundary' host host' := by
  -- what is made is made under names that had nothing, and only a closing takes units away
  cases moves with
  | hostMade unknown found =>
    refine ⟨rfl, find?_insert_of_unknown unknown, fun lacks => ⟨?_, lacks.2⟩, id, fun _ => id⟩
    rw [StringMap.find?_insert, if_neg, lacks.1]
    rintro rfl
    exact found lacks.2
  | missed searches same =>
    exact ⟨rfl, id, id, fun h => by rw [Boundary.isClosed, ← same]; exact h, fun _ => id⟩
  | made searches unshut unknown same =>
    exact ⟨rfl, id, id, fun _ => unshut, fun _ => find?_insert_of_unknown unknown⟩
  | closes => exact ⟨rfl, id, id, fun h => absurd h (by simp [Boundary.close, Boundary.isClosed]),
      fun h => absurd h (by simp [Boundary.close, Boundary.isClosed])⟩
  | _ => exact ⟨rfl, id, id, id, fun _ => id⟩

theorem Held.mono (extends' : Extends files boundary boundary' host host')
    (open' : boundary'.isClosed = false) (h : Held boundary host symbol unit) :
    Held boundary' host' symbol unit :=
  h.imp (extends'.cache open') fun h => ⟨extends'.policy ▸ h.1, extends'.hostCache h.2⟩

/-- The places of calls that do not move tell the same afterwards. -/
theorem Call.Fits.mono (extends' : Extends files boundary boundary' host host')
    (h : call.Fits files boundary host) : call.Fits files boundary' host' := by
  cases call with
  | starting symbol => trivial
  | closing => trivial
  | closed =>
    cases hclosed : boundary'.isClosed with
    | true => exact hclosed
    | false => exact absurd h (by simp [Fits, extends'.unshut hclosed])
  | falling symbol => exact extends'.lacks h
  | finished symbol answer =>
    intro unit hanswer open'
    exact (h unit hanswer (extends'.unshut open')).mono extends' open'
  | checking symbol unit => exact ⟨extends'.policy ▸ h.1, extends'.hostCache h.2⟩
  | isolating symbol => simpa [Fits, extends'.policy] using h
  | looking symbol => simpa [Fits, extends'.policy] using h
  | asking symbol => simpa [Fits, extends'.policy] using h

/-- The new place of a call that moves tells what it should. -/
theorem Moves.fits (moves : Moves files boundary host serial call call' boundary' host' serial')
    (h : call.Fits files boundary host) : call'.Fits files boundary' host' := by
  -- a place tells what the rule that leads to it has found out
  cases moves with
  | routed unshut =>
    rw [Call.routed]
    split
    · next route => exact route
    · next route => simp [Call.Fits, route]
    · next route => exact route
  | known known =>
    intro unit hanswer _
    obtain rfl : _ = unit := by simpa using hanswer
    exact .inl known
  | unknown unknown =>
    have route : boundary.policy.route _ = .delegated := h
    simp [Call.Fits, route]
  | hostKnown known => exact ⟨h, known⟩
  | hostMade unknown found => exact ⟨h, by simp [StringMap.find?_insert]⟩
  | hostLacks lacks route => exact lacks
  | passed unshut =>
    intro unit hanswer _
    obtain rfl : _ = unit := by simpa using hanswer
    exact .inr h
  | again searches known =>
    intro unit hanswer _
    obtain rfl : _ = unit := by simpa using hanswer
    exact .inl known
  | made searches unshut unknown same =>
    intro unit hanswer _
    obtain rfl : _ = unit := by simpa using hanswer
    exact .inl (by simp [StringMap.find?_insert])
  | closes => rfl
  | finished => exact h
  | closed => exact h
  | refused | hostFailed | late | missed =>
    intro unit hanswer
    simp at hanswer

theorem Call.Searches.route_or_lacks (searches : call.Searches symbol)
    (h : call.Fits files boundary host) :
    boundary.policy.route symbol = .isolated ∨ Lacks files host symbol := by
  cases searches with
  | isolating => exact .inl h
  | falling => exact .inr h

theorem Moves.proper (moves : Moves files boundary host serial call call' boundary' host' serial')
    (h : call.Fits files boundary host) (proper : Proper files boundary host) :
    Proper files boundary' host' := by
  have lacks {symbol : String} (h : Lacks files host symbol) : Lacks files host' symbol :=
    moves.extends.lacks h
  cases moves with
  | hostMade unknown found =>
    exact ⟨fun symbol unit known => (proper.cached symbol unit known).imp_right lacks,
      proper.emptied⟩
  | missed searches same =>
    refine ⟨proper.cached, fun shut => proper.emptied ?_⟩
    rw [Boundary.isClosed, ← same]
    exact shut
  | @made _ made _ _ searches unshut unknown same =>
    -- who searches has been told by the policy or by the parent that it is for the boundary to make
    refine ⟨fun symbol unit known => ?_, fun shut => ?_⟩
    · rw [StringMap.find?_insert] at known
      split at known
      · next heq => exact heq ▸ searches.route_or_lacks h
      · exact proper.cached symbol unit known
    · rw [Boundary.isClosed, ← same] at unshut
      exact absurd (shut.symm.trans unshut) (by simp)
  | closes => exact ⟨fun symbol unit known => by simp [Boundary.close] at known, fun _ => rfl⟩
  | _ => exact proper

/-- A call is answered with a unit only by an open boundary. -/
theorem Moves.unshut (moves : Moves files boundary host serial call call' boundary' host' serial')
    (proper : Proper files boundary host) (before : call ≠ call')
    (h : call' = .finished symbol (.done (.ok unit))) : boundary'.isClosed = false := by
  have ofKnown {symbol : String} {unit : LoadedUnit}
      (known : boundary.cache.find? symbol = some unit) : boundary.isClosed = false := by
    refine Bool.eq_false_iff.2 fun shut => ?_
    rw [proper.emptied shut] at known
    simp at known
  cases moves with
  | known known => exact ofKnown known
  | passed unshut => exact unshut
  | again searches known => exact ofKnown known
  | made searches unshut unknown same =>
    rw [Boundary.isClosed, same]
    exact unshut
  | finished => exact absurd rfl before
  | routed unshut =>
    rw [Call.routed] at h
    split at h <;> simp at h
  | _ => simp at h

/-! ### Runs -/

/-- What is known of a boundary, its parent and all calls on the boundary. -/
structure Sound (files : FileSystem) (ref : LoaderRef) (state : Calls) (boundary : Boundary)
    (host : Host) : Prop where
  placed : Placed ref state.loaders boundary host
  proper : Proper files boundary host
  fits : ∀ call, (state.calls call).Fits files boundary host
  agree : ∀ {first second symbol unit other},
    state.calls first = .finished symbol (.done (.ok unit)) →
    state.calls second = .finished symbol (.done (.ok other)) → unit = other

/-- Before any of the calls has begun, nothing can be wrong. -/
theorem Sound.start {state : Calls} (placed : Placed ref state.loaders boundary host)
    (fresh : boundary.cache = ∅)
    (idle : ∀ call, state.calls call = .closing ∨ ∃ symbol, state.calls call = .starting symbol) :
    Sound files ref state boundary host where
  placed := placed
  proper := ⟨fun symbol unit known => by simp [fresh] at known, fun _ => fresh⟩
  fits call := by
    obtain h | ⟨symbol, h⟩ := idle call
    · rw [h]
      trivial
    · rw [h]
      trivial
  agree {first second symbol unit other} h _ := by
    obtain h' | ⟨symbol, h'⟩ := idle first
    · simp [h'] at h
    · simp [h'] at h

/-- A step of one call goes by the rules, and the other calls stay where they are. -/
theorem Sound.exists_step (sound : Sound files ref state boundary host) (call : Nat) :
    ∃ boundary' host', Sound files ref (state.step files ref call) boundary' host' ∧
      Moves files boundary host state.loaders.nextSerial (state.calls call)
        ((state.step files ref call).calls call) boundary' host'
        (state.step files ref call).loaders.nextSerial ∧
      ∀ other ≠ call, (state.step files ref call).calls other = state.calls other := by
  obtain ⟨boundary', host', placed, moves⟩ : ∃ boundary' host',
      Placed ref (state.step files ref call).loaders boundary' host' ∧
        Moves files boundary host state.loaders.nextSerial (state.calls call)
          ((state.step files ref call).calls call) boundary' host'
          (state.step files ref call).loaders.nextSerial := by
    rw [sound.placed.step]
    simp only [Function.update_self]
    exact exists_moves sound.placed (state.calls call)
  have hother : ∀ other ≠ call, (state.step files ref call).calls other = state.calls other := by
    intro other hne
    simp only [sound.placed.step, Function.update_of_ne hne]
  have hfits : ∀ other, ((state.step files ref call).calls other).Fits files boundary' host' := by
    intro other
    by_cases hne : other = call
    · rw [hne]
      exact moves.fits (sound.fits call)
    · rw [hother other hne]
      exact (sound.fits other).mono moves.extends
  have hproper := moves.proper (sound.fits call) sound.proper
  refine ⟨boundary', host', ⟨placed, hproper, hfits, ?_⟩, moves, hother⟩
  intro first second symbol unit other hfirst hsecond
  -- a new answer is given by an open boundary, which has the one unit that all answers are about
  by_cases hopen : boundary'.isClosed = false
  · exact Held.eq hproper (Call.Fits.held (hfirst ▸ hfits first) hopen)
      (Call.Fits.held (hsecond ▸ hfits second) hopen)
  · have hold {other symbol unit}
        (h : (state.step files ref call).calls other = .finished symbol (.done (.ok unit))) :
        state.calls other = .finished symbol (.done (.ok unit)) := by
      by_cases hne : other = call
      · by_contra hnew
        subst hne
        exact hopen (moves.unshut sound.proper (fun heq => hnew (heq.trans h)) h)
      · rw [← hother other hne, h]
    exact sound.agree (hold hfirst) (hold hsecond)

theorem Sound.exists_run (sound : Sound files ref state boundary host) (schedule : List Nat) :
    ∃ boundary' host', Sound files ref (state.run files ref schedule) boundary' host' ∧
      boundary'.id = boundary.id := by
  induction schedule generalizing state boundary host with
  | nil => exact ⟨boundary, host, sound, rfl⟩
  | cons call schedule ih =>
    obtain ⟨boundary', host', sound', moves, -⟩ := sound.exists_step call
    obtain ⟨last, host, hlast, hid⟩ := ih sound'
    exact ⟨last, host, hlast, hid.trans moves.same.2.2.1⟩

/-! ### At most one unit for each name -/

/-- The boundary has a unit for a name, or is closed: it will never make one. -/
def Exhausted (boundary : Boundary) (symbol : String) : Prop :=
  boundary.isClosed = true ∨ ∃ unit, boundary.cache.find? symbol = some unit

theorem Exhausted.mono (h : Exhausted boundary symbol)
    (extends' : Extends files boundary boundary' host host') : Exhausted boundary' symbol := by
  by_cases hopen : boundary'.isClosed = false
  · obtain shut | ⟨unit, known⟩ := h
    · exact absurd (shut.symm.trans (extends'.unshut hopen)) (by simp)
    · exact .inr ⟨unit, extends'.cache hopen known⟩
  · exact .inl (by simpa using hopen)

theorem Call.Searches.eq {name : String} (h : call.Searches symbol) (h' : call.Searches name) :
    symbol = name := by
  cases h <;> cases h' <;> rfl

/-- A unit is made only where none is kept, and is kept from then on. -/
theorem Moves.made_exhausted
    (moves : Moves files boundary host serial call call' boundary' host' serial')
    (searches : call.Searches symbol) (made : serial' ≠ serial) :
    ¬ Exhausted boundary symbol ∧ Exhausted boundary' symbol := by
  cases moves with
  | made searches' unshut unknown same =>
    obtain rfl := searches.eq searches'
    refine ⟨?_, .inr ⟨_, (StringMap.find?_insert ..).trans (if_pos rfl)⟩⟩
    rintro (shut | ⟨unit, known⟩)
    · exact absurd (shut.symm.trans unshut) (by simp)
    · exact absurd (known.symm.trans unknown) (by simp)
  | hostMade unknown found => cases searches
  | _ => exact absurd rfl made

theorem Calls.makes_eq_some {call : Nat} (h : state.makes files ref call = some symbol) :
    (state.calls call).Searches symbol ∧
      (state.step files ref call).loaders.nextSerial ≠ state.loaders.nextSerial := by
  rw [makes] at h
  split at h
  · next name hcall =>
    obtain ⟨hmade, rfl⟩ : _ ∧ name = symbol := by simpa using h
    exact ⟨hcall ▸ .isolating, hmade⟩
  · next name hcall =>
    obtain ⟨hmade, rfl⟩ : _ ∧ name = symbol := by simpa using h
    exact ⟨hcall ▸ .falling, hmade⟩
  · simp at h

/-- What is kept is not made again. -/
theorem Sound.not_mem_made (sound : Sound files ref state boundary host)
    (exhausted : Exhausted boundary symbol) (schedule : List Nat) :
    symbol ∉ Calls.made files ref schedule state := by
  induction schedule generalizing state boundary host with
  | nil => simp [Calls.made]
  | cons call schedule ih =>
    obtain ⟨boundary', host', sound', moves, -⟩ := sound.exists_step call
    rw [Calls.made, List.mem_append, not_or]
    refine ⟨fun hmade => ?_, ih sound' (exhausted.mono moves.extends)⟩
    obtain ⟨searches, hserial⟩ := Calls.makes_eq_some (Option.mem_toList.1 hmade)
    exact (moves.made_exhausted searches hserial).1 exhausted

theorem Sound.nodup_made (sound : Sound files ref state boundary host) (schedule : List Nat) :
    (Calls.made files ref schedule state).Nodup := by
  -- a name for which a unit is made now is exhausted from then on
  induction schedule generalizing state boundary host with
  | nil => exact List.nodup_nil
  | cons call schedule ih =>
    obtain ⟨boundary', host', sound', moves, -⟩ := sound.exists_step call
    rw [Calls.made]
    cases hmakes : state.makes files ref call with
    | none => simpa using ih sound'
    | some symbol =>
      obtain ⟨searches, hserial⟩ := Calls.makes_eq_some hmakes
      have exhausted := (moves.made_exhausted searches hserial).2
      simpa using ⟨sound'.not_mem_made exhausted schedule, ih sound'⟩

/-! ### After a closing -/

/-- No step opens a boundary. -/
theorem Moves.isClosed (moves : Moves files boundary host serial call call' boundary' host' serial')
    (shut : boundary.isClosed = true) : boundary'.isClosed = true := by
  by_contra hopen
  exact absurd (shut.symm.trans (moves.extends.unshut (by simpa using hopen))) (by simp)

/-- A closed boundary stays closed, and gives no more answers with units. -/
theorem Sound.run_shut (sound : Sound files ref state boundary host)
    (shut : boundary.isClosed = true) (schedule : List Nat) :
    (∃ now, (state.run files ref schedule).loaders.boundary? ref = some now ∧ now.isClosed = true ∧
      now.cache = ∅) ∧
    ∀ call symbol unit,
      (state.run files ref schedule).calls call = .finished symbol (.done (.ok unit)) →
      state.calls call = .finished symbol (.done (.ok unit)) := by
  induction schedule generalizing state boundary host with
  | nil =>
    exact ⟨⟨boundary, sound.placed.here, shut, sound.proper.emptied shut⟩, fun _ _ _ => id⟩
  | cons call schedule ih =>
    obtain ⟨boundary', host', sound', moves, hother⟩ := sound.exists_step call
    obtain ⟨hnow, hanswers⟩ := ih sound' (moves.isClosed shut)
    refine ⟨hnow, fun other symbol unit h => ?_⟩
    have hold := hanswers other symbol unit h
    -- a call that moves now and gets a unit would show that the boundary is open
    by_cases hne : other = call
    · by_contra hnew
      subst hne
      have hopen := moves.unshut sound.proper (fun heq => hnew (heq.trans hold)) hold
      exact absurd (moves.isClosed shut) (by simp [hopen])
    · rw [← hother other hne, hold]

theorem Moves.eq_of_finished {answer : Attempt (Except ResolveError LoadedUnit)}
    (moves : Moves files boundary host serial (.finished symbol answer) call' boundary' host'
      serial') : call' = .finished symbol answer := by
  cases moves with
  | finished => rfl
  | again searches | missed searches | made searches => cases searches

theorem Moves.eq_of_starting (shut : boundary.isClosed = true)
    (moves : Moves files boundary host serial (.starting symbol) call' boundary' host' serial') :
    call' = .finished symbol (.done (.error (.closed boundary.id))) := by
  cases moves with
  | refused => rfl
  | routed unshut => exact absurd (shut.symm.trans unshut) (by simp)
  | again searches | missed searches | made searches => cases searches

theorem Sound.run_finished (sound : Sound files ref state boundary host) {call : Nat}
    {answer : Attempt (Except ResolveError LoadedUnit)}
    (ended : state.calls call = .finished symbol answer) (schedule : List Nat) :
    (state.run files ref schedule).calls call = .finished symbol answer := by
  induction schedule generalizing state boundary host with
  | nil => exact ended
  | cons other schedule ih =>
    obtain ⟨boundary', host', sound', moves, hother⟩ := sound.exists_step other
    refine ih sound' ?_
    by_cases hne : call = other
    · subst hne
      exact (ended ▸ moves).eq_of_finished
    · rw [hother call hne, ended]

/-- A request that begins when the boundary is closed is refused at its first step. -/
theorem Sound.run_starting (sound : Sound files ref state boundary host)
    (shut : boundary.isClosed = true) {call : Nat} (begins : state.calls call = .starting symbol)
    {schedule : List Nat} (mem : call ∈ schedule) :
    (state.run files ref schedule).calls call =
      .finished symbol (.done (.error (.closed boundary.id))) := by
  induction schedule generalizing state boundary host with
  | nil => simp at mem
  | cons other schedule ih =>
    obtain ⟨boundary', host', sound', moves, hother⟩ := sound.exists_step other
    by_cases hne : call = other
    · subst hne
      exact sound'.run_finished ((begins ▸ moves).eq_of_starting shut) schedule
    · have hrest := ih sound' (moves.isClosed shut) ((hother call hne).trans begins)
        ((List.mem_cons.1 mem).resolve_left hne)
      rw [← moves.same.2.2.1]
      exact hrest

/-! ### All requests and closings -/

/-- However requests to an open or closed boundary and closings of it are interleaved: at most one
unit is made for each name, and all requests for a name that get a unit get the same one. From a
closing on the boundary is closed and has no units, makes none, refuses the requests that begin, and
answers no request with a unit that was not answered before. -/
theorem Calls.run_once (placed : Placed ref state.loaders boundary host)
    (fresh : boundary.cache = ∅)
    (idle : ∀ call, state.calls call = .closing ∨ ∃ symbol, state.calls call = .starting symbol)
    (schedule : List Nat) :
    (made files ref schedule state).Nodup ∧
    (∀ first second symbol unit other,
      (state.run files ref schedule).calls first = .finished symbol (.done (.ok unit)) →
      (state.run files ref schedule).calls second = .finished symbol (.done (.ok other)) →
      unit = other) ∧
    ∀ before after closer, schedule = before ++ after →
      (state.run files ref before).calls closer = .closed →
      (∃ now, (state.run files ref schedule).loaders.boundary? ref = some now ∧
        now.isClosed = true ∧ now.cache = ∅) ∧
      made files ref after (state.run files ref before) = [] ∧
      (∀ call ∈ after, ∀ symbol, (state.run files ref before).calls call = .starting symbol →
        (state.run files ref schedule).calls call =
          .finished symbol (.done (.error (.closed boundary.id)))) ∧
      ∀ call symbol unit,
        (state.run files ref schedule).calls call = .finished symbol (.done (.ok unit)) →
        (state.run files ref before).calls call = .finished symbol (.done (.ok unit)) := by
  have sound : Sound files ref state boundary host := .start placed fresh idle
  refine ⟨sound.nodup_made schedule, ?_, ?_⟩
  · intro first second symbol unit other
    obtain ⟨_, _, sound', -⟩ := sound.exists_run schedule
    exact sound'.agree
  · rintro before after closer rfl hclosed
    obtain ⟨now, host', sound', hid⟩ := sound.exists_run before
    have shut : now.isClosed = true := by simpa [hclosed, Call.Fits] using sound'.fits closer
    have happend : state.run files ref (before ++ after) =
        (state.run files ref before).run files ref after := List.foldl_append
    rw [happend, ← hid]
    refine ⟨(sound'.run_shut shut after).1, ?_, fun call mem symbol begins => ?_,
      (sound'.run_shut shut after).2⟩
    · exact List.eq_nil_iff_forall_not_mem.2 fun symbol =>
        sound'.not_mem_made (.inl shut) after
    · exact sound'.run_starting shut begins mem

end Steps

/-- A host that finds nothing. -/
def emptyHost : Host :=
  { id := ⟨1⟩, archives := [], opened := [], registry := .empty, context := processStore }

/-- A boundary below it, with one unit on its search path. -/
def searchingBoundary : Boundary :=
  { id := ⟨2⟩, policy := {}, parent := 0, parentId := ⟨1⟩, searchPath := [.directory "lib"]
    sets := some { isolated := [] }, registry := .empty, context := processStore }

/-- Requests for that unit, and one closing. -/
def race : Calls where
  loaders := { list := [.host emptyHost, .boundary searchingBoundary], nextId := 3 }
  calls call := if call = 2 then .closing else .starting "A"

/-- The parent answers both requests before either of them looks into the archives. Then the
boundary is closed, and a third request begins. -/
def raced : List Nat := [0, 0, 0, 1, 1, 1, 0, 1, 2]

/-- One unit is made for both requests, and the third one is refused. -/
theorem Calls.run_once_race :
    Calls.made oneUnit 1 raced race = ["A"] ∧
      (∀ unit other,
        (race.run oneUnit 1 (raced ++ [3])).calls 0 = .finished "A" (.done (.ok unit)) →
        (race.run oneUnit 1 (raced ++ [3])).calls 1 = .finished "A" (.done (.ok other)) →
        unit = other) ∧
      (race.run oneUnit 1 (raced ++ [3])).calls 3 =
        .finished "A" (.done (.error (.closed ⟨2⟩))) := by
  have idle (call : Nat) :
      race.calls call = .closing ∨ ∃ symbol, race.calls call = .starting symbol := by
    by_cases h : call = 2
    · exact .inl (if_pos h)
    · exact .inr ⟨"A", if_neg h⟩
  have placed : Placed 1 race.loaders searchingBoundary emptyHost := ⟨rfl, rfl⟩
  obtain ⟨-, hsame, hafter⟩ : (Calls.made oneUnit 1 (raced ++ [3]) race).Nodup ∧ _ :=
    Calls.run_once placed rfl idle (raced ++ [3])
  refine ⟨by decide +kernel, hsame 0 1 "A", ?_⟩
  obtain ⟨-, -, hrefused, -⟩ := hafter raced [3] 2 rfl (by with_unfolding_all rfl)
  exact hrefused 3 (by simp) "A" (by with_unfolding_all rfl)

end Loaders

end Isolation
