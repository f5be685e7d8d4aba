import Isolation.Work.Basic

/-!
# Registries of entry points

Which entry points there are for each unit. A loader links a unit to its entry points when it makes
the unit.

## Main definitions

* `Registry` — entry points by unit and member
* `Registry.link` — the entry points of one unit
-/

namespace Isolation

/-- The entry points of a unit by their names. -/
abbrev Entries := StringMap Handler

/-- Entry points by unit and member. -/
structure Registry where
  units : StringMap Entries := ∅

namespace Registry

/-- The registry without entry points. -/
def empty : Registry := {}

instance : Inhabited Registry := ⟨empty⟩

/-- The entry points of a unit. -/
def link (registry : Registry) (unit : String) : Entries := (registry.units.find? unit).getD ∅

/-- Sets an entry point. -/
def register (registry : Registry) (unit member : String) (handler : Handler) : Registry :=
  { units := registry.units.insert unit ((registry.link unit).insert member handler) }

/-- Sets the entry point that work is dispatched to. -/
def registerWork (registry : Registry) (unit : String) (handler : Handler) : Registry :=
  registry.register unit runEntry handler

/-- An entry point. -/
def get? (registry : Registry) (unit member : String) : Option Handler :=
  (registry.units.find? unit).bind fun entries => entries.find? member

/-- Whether there is an entry point. -/
def contains (registry : Registry) (unit member : String) : Bool :=
  (registry.get? unit member).isSome

/-- The number of units with entry points. -/
def size (registry : Registry) : Nat := registry.units.size

/-- A registry with the number of its units. -/
def describe (registry : Registry) : String :=
  "EntryRegistry \x7b units: " ++ Text.ofNat registry.size ++ " \x7d"

/-- The names of the entry points of a unit. -/
def describeMembers (members : List String) : String :=
  "LinkedEntries \x7b members: " ++ Text.quoteList members ++ " \x7d"

end Registry

end Isolation
