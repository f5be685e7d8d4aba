import Isolation.FileSystem
import Isolation.Text.Numeral
import Isolation.Text.Quoted

/-!
# Archives

An archive holds units and other files under entry paths. It is a directory, a zip container in a
file, or a zip container in memory.

## Main definitions

* `Archive` — where an archive is
* `Archive.ofPath` — the archive at a path
* `Archive.label` — how it is called in locations and messages
-/

namespace Isolation

/-- Where an archive is. -/
inductive Archive
  | directory (path : String)
  | zip (path : String)
  | memory (label : String) (bytes : List UInt8)
  deriving DecidableEq, Repr

namespace Archive

/-- The archive at a path: a directory if one is there, else a zip container. -/
def ofPath (files : FileSystem) (path : String) : Archive :=
  if files.isDirectory path then .directory path else .zip path

/-- How an archive is called in locations and messages. -/
def label : Archive → String
  | directory path => path
  | zip path => path
  | memory label _ => label

/-- An archive with all that it holds, of bytes only their number. -/
def describe : Archive → String
  | directory path => "Directory(" ++ Text.quote path ++ ")"
  | zip path => "Zip(" ++ Text.quote path ++ ")"
  | memory label bytes =>
    "Memory \x7b label: " ++ Text.quote label ++ ", len: " ++ Text.ofNat bytes.length ++ " \x7d"

end Archive

end Isolation
