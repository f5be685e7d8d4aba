import Isolation.Proofs.Loader.Bare
import Isolation.Proofs.Loader.Lookup

/-!
# Loaders that answer alike

Two loaders on the same archives, with the same registry, have the same units, though each has made
its own: the units are the same but for the numbers of their loaders and their own ones. Whether
boundaries share the stores of their parents makes no difference to this.

## Main definitions

* `LoadedUnit.Like`, `AnswersLike` — units and answers that are the same but for numbers
* `Chain.Like` — chains that are the same but for numbers and stores

## Main results

* `Chain.Like.lookup` — such chains have the same for every name
-/

namespace Isolation

/-- Two units that are the same, though perhaps of different loaders. -/
structure LoadedUnit.Like (unit other : LoadedUnit) : Prop where
  name : unit.name = other.name
  archive : unit.archive = other.archive
  path : unit.path = other.path
  bytes : unit.bytes = other.bytes
  entries : unit.entries = other.entries

/-- Two answers of loaders that are the same, though perhaps with units of different loaders. -/
inductive AnswersLike : Attempt (Except ResolveError LoadedUnit) →
    Attempt (Except ResolveError LoadedUnit) → Prop
  | crashed (crash) : AnswersLike (.crashed crash) (.crashed crash)
  | error (error) : AnswersLike (.done (.error error)) (.done (.error error))
  | unit {unit other} (like : unit.Like other) : AnswersLike (.done (.ok unit)) (.done (.ok other))

theorem LoadedUnit.Like.refl (unit : LoadedUnit) : unit.Like unit := ⟨rfl, rfl, rfl, rfl, rfl⟩

theorem AnswersLike.refl (answer : Attempt (Except ResolveError LoadedUnit)) :
    AnswersLike answer answer := by
  rcases answer with ⟨error | unit⟩ | crash
  · exact .error error
  · exact .unit (.refl unit)
  · exact .crashed crash

/-- Two chains that are the same, though perhaps of different loaders, and with or without stores of
their own. -/
inductive Chain.Like : Chain → Chain → Prop
  | host {id id' archives registry} :
      Like (.host id archives registry) (.host id' archives registry)
  | boundary {id id' policy policy' registry parent parent'} (same : policy.bare = policy'.bare)
      (parents : Like parent parent') :
      Like (.boundary id policy registry parent) (.boundary id' policy' registry parent')

namespace Chain

variable {chain chain' : Chain} {files : FileSystem} {symbol : String}

theorem Like.refl (chain : Chain) : chain.Like chain := by
  induction chain with
  | host => exact .host
  | boundary _ _ _ _ ih => exact .boundary rfl ih

theorem Like.searchPath_eq (like : chain.Like chain') : chain.searchPath = chain'.searchPath := by
  induction like with
  | host => rfl
  | boundary same _ ih => rw [searchPath, searchPath, ih, Policy.archives_of_bare same]

theorem answersLike_stamp (id id' : LoaderId) (registry : Registry)
    (found : Except ArchiveError (Option Located)) (serial serial' : Nat) :
    AnswersLike (.done ((stamp id registry symbol found).map (· serial)))
      (.done ((stamp id' registry symbol found).map (· serial'))) := by
  rcases found with error | (_ | located)
  · exact .error _
  · exact .error _
  · exact .unit ⟨rfl, rfl, rfl, rfl, rfl⟩

/-- Such chains have the same for every name. -/
theorem Like.lookup (like : chain.Like chain') (serial serial' : Nat) :
    AnswersLike (.done ((chain.lookup files symbol).map (· serial)))
      (.done ((chain'.lookup files symbol).map (· serial'))) := by
  induction like with
  | host => exact answersLike_stamp _ _ _ _ serial serial'
  | @boundary id id' policy policy' registry parent parent' same parents ih =>
    have hroute := Policy.route_of_bare same symbol
    have harchives := Policy.archives_of_bare same
    cases route : policy.route symbol with
    | excluded =>
      rw [lookup_excluded route, lookup_excluded (hroute.symm.trans route)]
      exact ih
    | isolated =>
      rw [lookup_isolated route, lookup_isolated (hroute.symm.trans route), harchives]
      exact answersLike_stamp id id' registry _ serial serial'
    | delegated =>
      rw [lookup_delegated route, lookup_delegated (hroute.symm.trans route), harchives,
        parents.searchPath_eq]
      revert ih
      generalize parent.lookup files symbol = found
      generalize parent'.lookup files symbol = found'
      intro ih
      rcases found with error | make <;> rcases found' with error' | make'
      · cases ih
        cases error with
        | notFound missing => exact answersLike_stamp id id' registry _ serial serial'
        | _ => exact .error _
      · cases ih
      · cases ih
      · exact ih

end Chain

end Isolation
