import Isolation.Archive.Scan
import Isolation.CommandLine.Words
import Isolation.Policy.File

/-!
# Tasks

What the program can be asked to do. Options that concern the whole program may stand before the
command and after it.

## Main definitions

* `Task` — scanning archives, and resolving symbols under a policy file
* `Task.ofWords` — the task that a command line asks for
* `Task.paths` — what a task reads
-/

namespace Isolation.CommandLine

/-- What the program is asked to do. -/
inductive Task
  | scan (archives : List String) (kind : ScanKind) (ignored : List String) (json : Bool)
  | resolve (policy : String) (symbols : List String) (routeOnly json : Bool)
  deriving DecidableEq, Repr

/-- How much is logged. Nothing is, so any text will do. -/
def logLevel : Switch := { name := "log-level", operand := some .text }

/-- The request for help. -/
def helpSwitch : Switch := { name := "help", letter := some 'h', stop := some .help }

/-- The request for the version, which only the program itself has. -/
def versionSwitch : Switch := { name := "version", letter := some 'V', stop := some .version }

/-- The choice of documents as output. -/
def jsonSwitch : Switch := { name := "json" }

/-- The options before a command. -/
def programRules : Rules :=
  { switches := [logLevel, helpSwitch, versionSwitch], arguments := .text }

/-- The options of a scan, whose arguments are archives. -/
def scanRules : Rules where
  switches := [{ name := "units" }, { name := "ignore", operand := some .text, repeatable := true },
    jsonSwitch, logLevel, helpSwitch]
  arguments := .path

/-- The options of resolving, whose arguments are symbols. -/
def resolveRules : Rules where
  switches := [{ name := "policy", letter := some 'p', operand := some .path },
    { name := "route-only" }, jsonSwitch, logLevel, helpSwitch]
  arguments := .text

namespace Task

/-- A scan needs an archive. -/
def scanOf (reading : Reading) : Except Stop Task :=
  match reading.arguments with
  | [] => .error .misuse
  | archives =>
    .ok (.scan archives (if reading.gave "units" then .units else .packages)
      (reading.values "ignore") (reading.gave "json"))

/-- Resolving needs a policy file and a symbol. -/
def resolveOf (reading : Reading) : Except Stop Task :=
  match reading.values "policy", reading.arguments with
  | policy :: _, symbol :: symbols =>
    .ok (.resolve policy (symbol :: symbols) (reading.gave "route-only") (reading.gave "json"))
  | _, _ => .error .misuse

/-- The commands that there is help for. -/
def helpTopics : List (List String) := [[], ["scan"], ["resolve"], ["help"]]

/-- The task of a command with the words after it. -/
def ofCommand (command : String) (words : List String) : Except Stop Task :=
  if command = "scan" then (scanRules.read words).bind scanOf
  else if command = "resolve" then (resolveRules.read words).bind resolveOf
  else if command = "help" ∧ words ∈ helpTopics then .error .help
  else .error .misuse

/-- Reads options up to the command. -/
def ofWordsAfter (reading : Reading) : List String → Except Stop Task
  | [] => .error .misuse
  | word :: words =>
    match reading.awaiting, Word.ofString word with
    | none, .plain command => ofCommand command words
    -- behind a separator nothing is a command any more
    | none, .separator => .error .misuse
    | _, _ =>
      match reading.step programRules word with
      | .ok reading => ofWordsAfter reading words
      | .error stop => .error stop

/-- The task that a command line asks for. -/
def ofWords (words : List String) : Except Stop Task := ofWordsAfter {} words

/-- The paths of what a task reads, as far as they are known from the files that are there. -/
def paths (files : FileSystem) : Task → List String
  | scan archives _ _ _ => archives
  | resolve policy _ _ _ =>
    policy :: match PolicyFile.load files policy with
      | .ok file => (file.isolatedArchives files ++ file.archivesOfHost files).map Archive.label
      | .error _ => []

end Task

end Isolation.CommandLine
