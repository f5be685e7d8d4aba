import Isolation.Toml.Item

/-!
# Tables of configuration documents

Keys with dots in them, and headers, lead through tables, which they create where there are none.

## Main definitions

* `Toml.alter?` — reaches and changes the table that a path leads to
* `Toml.addEntry?` — sets a key for the first time
-/

namespace Isolation.Toml

variable {β : Type}

/-- Changes the entries of the table that a path leads to, with an answer. Tables on the way that
are missing are created, `dotted` telling whether a dotted key or a header leads there; of an array
of tables the last element is meant. No path leads through a table that is written in one line, and
no dotted key through one with a header of its own. -/
def alter? (dotted : Bool)
    (change? : Origin → List (String × Item) → Option (β × List (String × Item))) :
    List String → Origin → List (String × Item) → Option (β × List (String × Item))
  | [], origin, entries => change? origin entries
  | key :: path, _, entries =>
    match Fields.find? key entries with
    | none => do
      let origin := if dotted then .dotted else .path
      let (answer, inner) ← alter? dotted change? path origin []
      return (answer, Fields.insert key (.table origin inner) entries)
    | some (.table origin inner) =>
      if origin = .inline ∨ (dotted ∧ !origin.isImplicit) then none
      else do
        let (answer, inner) ← alter? dotted change? path origin inner
        return (answer, Fields.insert key (.table origin inner) entries)
    | some (.tables elements) =>
      match elements.getLast? with
      | some (.table origin inner) => do
        let (answer, inner) ← alter? dotted change? path origin inner
        let elements := elements.dropLast ++ [.table origin inner]
        return (answer, Fields.insert key (.tables elements) entries)
      | _ => none
    | some _ => none

/-- Sets a key below a dotted path. None if it is set already, or if the path leads to a table that
was not created by a dotted key. -/
def addEntry? (path : List String) (key : String) (item : Item) (origin : Origin)
    (entries : List (String × Item)) : Option (List (String × Item)) :=
  (alter? true (fun origin entries =>
    if origin = .dotted ↔ path = [] then none
    else if (Fields.find? key entries).isSome then none
    else some ((), Fields.insert key item entries)) path origin entries).map Prod.snd

end Isolation.Toml
