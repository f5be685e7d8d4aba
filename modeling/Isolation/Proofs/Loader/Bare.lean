import Isolation.Loader.Resolve

/-!
# Loaders without their stores

What a loader answers does not depend on the stores of loaders, nor on whether boundaries share
those of their parents. So loaders that differ in nothing else answer alike, and differ in nothing
else afterwards.

## Main definitions

* `Loaders.bare` — loaders of which the stores are forgotten

## Main results

* `Loaders.close_bare`, `Loaders.resolve_bare` — loaders can be closed and asked without them
-/

namespace Isolation

/-- A policy that says nothing about stores. -/
def Policy.bare (policy : Policy) : Policy := { policy with sharesContext := false }

/-- Policies that differ in nothing else treat names alike. -/
theorem Policy.route_of_bare {policy policy' : Policy} (same : policy.bare = policy'.bare)
    (symbol : String) : policy.route symbol = policy'.route symbol := by
  have h : policy.bare.route symbol = policy'.bare.route symbol := by rw [same]
  exact h

theorem Policy.archives_of_bare {policy policy' : Policy} (same : policy.bare = policy'.bare) :
    policy.archives = policy'.archives := by
  have h : policy.bare.archives = policy'.bare.archives := by rw [same]
  exact h

/-- A host of which the store is forgotten. -/
def Host.bare (host : Host) : Host := { host with context := processStore }

/-- A boundary of which the store is forgotten. -/
def Boundary.bare (boundary : Boundary) : Boundary :=
  { boundary with policy := boundary.policy.bare, context := processStore }

/-- A relay of which the store is forgotten. -/
def Relay.bare (relay : Relay) : Relay := { relay with context := processStore }

/-- A loader of which the store is forgotten. -/
def Loader.bare : Loader → Loader
  | .host h => .host h.bare
  | .boundary b => .boundary b.bare
  | .relay r => .relay r.bare

/-- Loaders of which the stores are forgotten. -/
def Loaders.bare (loaders : Loaders) : Loaders :=
  { loaders with list := loaders.list.map Loader.bare }

variable {files : FileSystem} {symbol : String} {serial : Nat}

@[simp] theorem Boundary.isClosed_bare (boundary : Boundary) :
    boundary.bare.isClosed = boundary.isClosed := rfl

@[simp] theorem Boundary.cache_bare (boundary : Boundary) :
    boundary.bare.cache = boundary.cache := rfl

@[simp] theorem Boundary.sets_bare (boundary : Boundary) :
    boundary.bare.sets = boundary.sets := rfl

@[simp] theorem Boundary.parent_bare (boundary : Boundary) :
    boundary.bare.parent = boundary.parent := rfl

@[simp] theorem Boundary.route_bare (boundary : Boundary) :
    boundary.bare.policy.route symbol = boundary.policy.route symbol := rfl

theorem Host.resolve_bare (host : Host) :
    host.bare.resolve files symbol serial =
      ((host.resolve files symbol serial).1, (host.resolve files symbol serial).2.1.bare,
        (host.resolve files symbol serial).2.2) := by
  rw [resolve, resolve, show host.bare.cache = host.cache from rfl]
  cases host.cache.find? symbol <;> rfl

namespace Boundary

theorem resolveIsolated_bare (boundary : Boundary) :
    boundary.bare.resolveIsolated files symbol serial =
      ((boundary.resolveIsolated files symbol serial).1,
        (boundary.resolveIsolated files symbol serial).2.1.bare,
        (boundary.resolveIsolated files symbol serial).2.2) := by
  rw [resolveIsolated, resolveIsolated, cache_bare, sets_bare]
  cases boundary.cache.find? symbol with
  | some unit => rfl
  | none => cases boundary.sets <;> rfl

theorem openFallback_bare (boundary : Boundary) (sets : OpenSets) :
    boundary.bare.openFallback files sets = boundary.openFallback files sets := rfl

theorem resolveFallback_bare (boundary : Boundary) :
    boundary.bare.resolveFallback files symbol serial =
      ((boundary.resolveFallback files symbol serial).1,
        (boundary.resolveFallback files symbol serial).2.1.bare,
        (boundary.resolveFallback files symbol serial).2.2) := by
  rw [resolveFallback, resolveFallback, cache_bare, sets_bare]
  cases boundary.cache.find? symbol with
  | some unit => rfl
  | none =>
    cases boundary.sets with
    | none => rfl
    | some sets =>
      simp only [openFallback_bare]
      cases boundary.openFallback files sets <;> rfl

end Boundary

namespace Loaders

variable {ref : LoaderRef}

@[simp] theorem names_bare (loaders : Loaders) : loaders.bare.names = loaders.names := rfl

@[simp] theorem nextSerial_bare (loaders : Loaders) :
    loaders.bare.nextSerial = loaders.nextSerial := rfl

theorem get?_bare (loaders : Loaders) :
    loaders.bare.get? ref = (loaders.get? ref).map Loader.bare := List.getElem?_map

theorem set_bare (loaders : Loaders) (loader : Loader) :
    (loaders.set ref loader).bare = loaders.bare.set ref loader.bare := by
  simp only [bare, set, List.map_set]

theorem boundary?_bare (loaders : Loaders) :
    loaders.bare.boundary? ref = (loaders.boundary? ref).map Boundary.bare := by
  rw [boundary?, boundary?, get?_bare]
  cases loaders.get? ref with
  | none => rfl
  | some loader => cases loader <;> rfl

theorem close_bare (loaders : Loaders) : (loaders.close ref).bare = loaders.bare.close ref := by
  rw [close, close, get?_bare]
  cases loaders.get? ref with
  | none => rfl
  | some loader =>
    have h : loader.close.bare = loader.bare.close := by cases loader <;> rfl
    simp only [Option.map_some, set_bare, h]

theorem closeNamed_bare (loaders : Loaders) (name : String) :
    (loaders.closeNamed name).bare = loaders.bare.closeNamed name := by
  rw [closeNamed, closeNamed, names_bare]
  cases loaders.names.find? name with
  | none => rfl
  | some ref => exact loaders.close_bare

theorem keepHost_bare (loaders : Loaders) (result : Except ResolveError LoadedUnit × Host × Nat) :
    loaders.bare.keepHost ref (result.1, result.2.1.bare, result.2.2) =
      ((loaders.keepHost ref result).1, (loaders.keepHost ref result).2.bare) := by
  have h : loaders.bare.set ref (.host result.2.1.bare) =
      (loaders.set ref (.host result.2.1)).bare := (loaders.set_bare (.host result.2.1)).symm
  simp only [keepHost, h]
  rfl

theorem keepBoundary_bare (loaders : Loaders)
    (result : Except ResolveError LoadedUnit × Boundary × Nat) :
    loaders.bare.keepBoundary ref (result.1, result.2.1.bare, result.2.2) =
      ((loaders.keepBoundary ref result).1, (loaders.keepBoundary ref result).2.bare) := by
  have h : loaders.bare.set ref (.boundary result.2.1.bare) =
      (loaders.set ref (.boundary result.2.1)).bare :=
    (loaders.set_bare (.boundary result.2.1)).symm
  simp only [keepBoundary, h]
  rfl

theorem unlessClosed_bare (loaders : Loaders) (boundary : Boundary) (unit : LoadedUnit) :
    unlessClosed ref boundary.bare unit loaders.bare =
      ((unlessClosed ref boundary unit loaders).1,
        (unlessClosed ref boundary unit loaders).2.bare) := by
  rw [unlessClosed, unlessClosed, boundary?_bare]
  cases loaders.boundary? ref with
  | none => rfl
  | some now =>
    cases hshut : now.isClosed with
    | true =>
      simp only [Option.map_some, Boundary.isClosed_bare, hshut, if_true]
      rfl
    | false =>
      simp only [Option.map_some, Boundary.isClosed_bare, hshut, Bool.false_eq_true, if_false]

/-- What loaders answer, and how they change by being asked, has nothing to do with their stores. -/
theorem resolve_bare (loaders : Loaders) :
    loaders.bare.resolve files symbol ref =
      ((loaders.resolve files symbol ref).1, (loaders.resolve files symbol ref).2.bare) := by
  -- the induction is on the place: parents, and loaders behind relays, stand in front
  induction ref using Nat.strongRecOn generalizing loaders with
  | _ ref ih =>
    rw [resolve, resolve, get?_bare]
    cases loaders.get? ref with
    | none => rfl
    | some loader =>
      cases loader with
      | host host =>
        simp only [Option.map_some, Loader.bare, nextSerial_bare, host.resolve_bare]
        exact loaders.keepHost_bare _
      | relay relay =>
        simp only [Option.map_some, Loader.bare, Relay.bare]
        cases relay.breaksOff with
        | some message => cases relay.closes <;> simp [closeNamed_bare]
        | none =>
          by_cases hinner : relay.inner < ref
          · cases relay.closes with
            | none => simpa [hinner] using ih relay.inner hinner loaders
            | some name =>
              simpa [hinner, closeNamed_bare] using ih relay.inner hinner (loaders.closeNamed name)
          · cases relay.closes <;> simp [hinner, closeNamed_bare]
      | boundary boundary =>
        cases hshut : boundary.isClosed with
        | true =>
          simp only [Option.map_some, Loader.bare, Boundary.isClosed_bare, hshut, if_true]
          rfl
        | false =>
          simp only [Option.map_some, Loader.bare, Boundary.isClosed_bare, hshut,
            Bool.false_eq_true, if_false, Boundary.route_bare]
          cases boundary.policy.route symbol with
          | isolated =>
            simp only [boundary.resolveIsolated_bare, nextSerial_bare]
            exact loaders.keepBoundary_bare _
          | excluded =>
            simp only [Boundary.parent_bare]
            by_cases below : boundary.parent < ref
            · simp only [if_pos below, ih _ below]
              rcases loaders.resolve files symbol boundary.parent with ⟨answer, after⟩
              rcases answer with ⟨error | unit⟩ | crash
              · rfl
              · exact after.unlessClosed_bare boundary unit
              · rfl
            · simp only [below, if_false]
          | delegated =>
            simp only [Boundary.cache_bare, Boundary.parent_bare]
            cases boundary.cache.find? symbol with
            | some unit => rfl
            | none =>
              by_cases below : boundary.parent < ref
              · simp only [if_pos below, ih _ below]
                rcases loaders.resolve files symbol boundary.parent with ⟨answer, after⟩
                rcases answer with ⟨error | unit⟩ | crash
                · cases error with
                  | notFound missing =>
                    simp only [boundary?_bare]
                    cases after.boundary? ref with
                    | none => rfl
                    | some now =>
                      simp only [Option.map_some, now.resolveFallback_bare, nextSerial_bare]
                      exact after.keepBoundary_bare _
                  | _ => rfl
                · exact after.unlessClosed_bare boundary unit
                · rfl
              · simp only [below, if_false]

end Loaders

end Isolation
