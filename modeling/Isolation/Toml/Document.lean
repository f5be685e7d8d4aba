import Isolation.Toml.Line

/-!
# Documents put together from their lines

The lines of a document fill one table after the other. A header opens a table, and no table is
opened twice, but one that only the path of another header led through may be opened later.

## Main definitions

* `Toml.Assembly` — the document so far and the table that is being filled
* `Toml.parse?` — the entries of a document
-/

namespace Isolation.Toml

/-- The document so far, and the table being filled, with the place where it belongs once it is
complete. -/
structure Assembly where
  root : List (String × Item) := []
  current : List (String × Item) := []
  place : Option (List String × String) := none
  isElement : Bool := false

namespace Assembly

/-- The entry under a key once a table with a header of its own is put there. -/
def place? (isElement : Bool) (table : Item) : Option Item → Option Item
  | none => some (if isElement then .tables [table] else table)
  | some (.tables elements) => if isElement then some (.tables (elements ++ [table])) else none
  | some (.table .path _) => if isElement then none else some table
  | some _ => none

/-- The document with the table being filled in its place. -/
def finish? (state : Assembly) : Option (List (String × Item)) :=
  match state.place with
  | none => some state.current
  | some (path, key) =>
    (alter? false (fun _ entries => do
      let item ← place? state.isElement (.table .header state.current) (Fields.find? key entries)
      return ((), Fields.insert key item entries)) path .header state.root).map Prod.snd

/-- The entries that a table has before its header: those that other headers put into it. -/
def openTable? (root : List (String × Item)) (path : List String) (key : String) :
    Option (List (String × Item) × List (String × Item)) :=
  alter? false (fun _ entries =>
    match Fields.find? key entries with
    | none => some ([], entries)
    | some (.table .path inner) => some (inner, entries)
    | some _ => none) path .header root

/-- One more line. -/
def add? (state : Assembly) : Line → Option Assembly
  | .table path key => do
    let (current, root) ← openTable? (← state.finish?) path key
    return { root, current, place := some (path, key), isElement := false }
  | .element path key => do
    return { root := ← state.finish?, current := [], place := some (path, key), isElement := true }
  | .entry path key item => do
    let current ← addEntry? path key item .header state.current
    return { state with current }

end Assembly

/-- The entries of a document. -/
def parse? (text : String) : Option (List (String × Item)) := do
  let lines ← lines? text
  let state ← lines.foldlM Assembly.add? {}
  state.finish?

end Isolation.Toml
