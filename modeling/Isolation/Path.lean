/-!
# Paths

Paths as text: names joined by slashes. Taking a path apart drops what means nothing, which is empty
parts and the dots inside it; joining and cutting keep the text as it is written.

## Main definitions

* `Path.segments` — the texts between the slashes
* `Path.components` — what a path is made of
* `Path.parent?`, `Path.join` — cutting off the last component, and appending a path
-/

namespace Isolation.Path

/-- The texts between the slashes of a path. -/
def segments (path : String) : List String :=
  (path.toList.splitOn '/').map String.ofList

/-- Whether a path starts at the root. -/
def isAbsolute (path : String) : Bool := ['/'].isPrefixOf path.toList

/-- What a path is made of. -/
inductive Component
  | root
  | current
  | parent
  | normal (name : String)
  deriving DecidableEq, Repr

/-- The component of a segment that is not the first; empty ones and dots are none. -/
def component? (segment : String) : Option Component :=
  if segment = "" ∨ segment = "." then none
  else if segment = ".." then some .parent
  else some (.normal segment)

/-- What a path is made of. A dot counts only in front. -/
def components (path : String) : List Component :=
  match segments path with
  | [] => []
  | first :: rest =>
    let front := if isAbsolute path then [.root] else if first = "." then [.current]
      else (component? first).toList
    front ++ rest.filterMap component?

/-- Drops segments at the end that are no components. -/
def trimSegments (segments : List String) : List String :=
  (segments.reverse.dropWhile fun segment => (component? segment).isNone).reverse

/-- The path without its last component, cut off after the component before it; none if there is no
last component. -/
def parent? (path : String) : Option String :=
  match segments path with
  | [] => none
  | first :: rest =>
    let body := trimSegments rest
    let shortened := trimSegments body.dropLast
    if isAbsolute path then
      if body = [] then none else some ("/" ++ "/".intercalate shortened)
    else if body = [] then
      if first = "" then none else some ""
    else some ("/".intercalate (first :: shortened))

/-- A path below another. An absolute path stands alone. -/
def join (base path : String) : String :=
  if isAbsolute path then path
  else if base = "" ∨ base.toList.getLast? = some '/' then base ++ path
  else base ++ "/" ++ path

end Isolation.Path
