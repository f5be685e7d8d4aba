import Isolation.Archive.Basic
import Isolation.Symbol

/-!
# Isolation policies

A policy says which names a boundary serves from its own archives, which it leaves to its parent,
and which it serves only if its parent cannot.

## Main definitions

* `Policy` — archives, and the beginnings of included and excluded names
* `Policy.route` — how a name is treated; exclusion wins over inclusion
* `Policy.withDiscovered` — a policy that includes more names
-/

namespace Isolation

/-- How a boundary treats a name. -/
inductive Route
  | excluded
  | isolated
  | delegated
  deriving DecidableEq, Repr

/-- The route as text. -/
def Route.display : Route → String
  | excluded => "excluded"
  | isolated => "isolated"
  | delegated => "delegated"

/-- What a boundary isolates. With `discover`, the packages found in the archives are included too,
but for those that begin with one of `ignores`. -/
structure Policy where
  archives : List Archive := []
  included : StringSet := ∅
  excluded : StringSet := ∅
  discover : Bool := false
  ignores : List String := []
  sharesContext : Bool := false

namespace Policy

/-- How a name is treated. -/
def route (policy : Policy) (symbol : String) : Route :=
  if Symbol.matchesAny symbol policy.excluded.toList then .excluded
  else if Symbol.matchesAny symbol policy.included.toList then .isolated
  else .delegated

/-- The policy with further names included. -/
def withDiscovered (policy : Policy) (packages : StringSet) : Policy :=
  { policy with included := policy.included.union packages }

end Policy

end Isolation
