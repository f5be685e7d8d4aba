import Isolation.StringMap

/-!
# Names of units

A unit is named by words joined with delimiters, `pkg.sub.Name`, and lies in an archive at the
entry path `pkg/sub/Name.unit`. Names are matched by plain string beginnings, with no regard for
the delimiters.

## Main definitions

* `Symbol.isUnitFile` — which entry paths hold units
* `Symbol.ofPath`, `Symbol.toPath` — names and entry paths, one from the other
* `Symbol.matchesAny` — whether a name begins with one of several strings
-/

namespace Isolation.Symbol

/-- What the entry path of a unit ends in. -/
def suffix : List Char := ".unit".toList

/-- What joins the words of a name. -/
def delimiter : Char := '.'

/-- Unit files end in the suffix and have something before it. -/
def isUnitFile (path : String) : Bool :=
  suffix.length < path.toList.length && suffix.isSuffixOf path.toList

/-- Drops the suffix of a unit file, if it is there. -/
def stripSuffix (path : List Char) : List Char :=
  if suffix.isSuffixOf path then path.take (path.length - suffix.length) else path

/-- Drops delimiters at either end. -/
def trim (name : List Char) : List Char :=
  ((name.dropWhile (· = delimiter)).reverse.dropWhile (· = delimiter)).reverse

/-- A path separator of either kind becomes a delimiter. -/
def ofSeparator (c : Char) : Char :=
  if c = '/' ∨ c = '\\' then delimiter else c

/-- The name that belongs to an entry path. -/
def ofPath (path : String) : String :=
  String.ofList (trim ((stripSuffix path.toList).map ofSeparator))

/-- A delimiter becomes a path separator. -/
def toSeparator (c : Char) : Char :=
  if c = delimiter then '/' else c

/-- The entry path of the unit with a given name. -/
def toPath (symbol : String) : String :=
  String.ofList (symbol.toList.map toSeparator ++ suffix)

/-- Whether a name begins with a given string. -/
def startsWith (symbol start : String) : Bool :=
  start.toList.isPrefixOf symbol.toList

/-- Whether a name begins with one of the given strings. -/
def matchesAny (symbol : String) (starts : List String) : Bool :=
  starts.any (startsWith symbol)

end Isolation.Symbol
