import Isolation.CommandLine.Report

/-!
# The program

Reads what the task needs into memory, does the task there and prints the report.

## Main definitions

* `main` — the entry of the program
-/

namespace Isolation.CommandLine

/-- Adds what lies at a path on disk, if anything does. -/
partial def readInto (files : FileSystem) (path : String) : IO FileSystem := do
  try
    let data ← IO.FS.readBinFile path
    return files.write path (some data.toList)
  catch _ =>
    try
      let entries ← (← IO.FS.realPath path).readDir
      entries.foldlM (fun files entry => readInto files (Path.join path entry.fileName))
        (files.write path none)
    catch _ => return files

/-- Files that are read from the working directory, of which nothing is read yet. -/
def workingFiles : IO FileSystem := do
  let names := (Path.segments (← IO.currentDir).toString).filter (· ≠ "")
  return ({ root := .directory [], working := names } : FileSystem).write "." none

/-- All that a command line needs: a policy file tells which archives are needed besides. -/
def gather (words : List String) (files : FileSystem) : IO FileSystem := do
  match Task.ofWords words with
  | .ok task =>
    -- the first round reads the policy file, which names what the second one reads
    let files ← (task.paths files).foldlM readInto files
    (task.paths files).foldlM readInto files
  | .error _ => return files

end Isolation.CommandLine

open Isolation.CommandLine in
/-- The entry of the program. -/
def main (words : List String) : IO UInt32 := do
  let report := report (← gather words (← workingFiles)) words
  IO.print report.output
  IO.eprint report.errors
  return UInt32.ofNat report.code
