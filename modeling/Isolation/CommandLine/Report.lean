import Isolation.CommandLine.Task
import Isolation.Json.Quoted
import Isolation.System.Basic

/-!
# Reports

What a run of the program prints and how it ends. A scan prints the names it found. Resolving prints
a record for each symbol: how the policy treats it, and where it was found or why it was not. In
text the records of symbols that could not be resolved are errors.

## Main definitions

* `Finding` — what came out for one symbol
* `Report` — lines and the way a run ends
* `Task.report`, `report` — the report on a task, and on a command line
-/

namespace Isolation.CommandLine

/-- A line on the standard output or on the standard error. -/
inductive Line
  | output (text : String)
  | error (text : String)
  deriving DecidableEq, Repr

/-- How a run ends. The reason for a failure is told where there is one. -/
inductive Ending
  | success
  | failure (message : String) (reason : Option String)
  | misuse
  deriving DecidableEq, Repr

/-- What a run prints and how it ends. -/
structure Report where
  lines : List Line
  ending : Ending
  deriving DecidableEq, Repr

/-- A text between quotes, with its escapes. -/
def quotedText (text : String) : String := "\"" ++ String.ofList (Json.escape text.toList) ++ "\""

/-- An object on one line. -/
def objectText (members : List (String × String)) : String :=
  "\x7b" ++ ",".intercalate (members.map fun member => quotedText member.1 ++ ":" ++ member.2) ++
    "\x7d"

/-- A list of texts with each on a line of its own. -/
def listText : List String → String
  | [] => "[]"
  | texts => "[\n" ++ ",\n".intercalate (texts.map fun text => "  " ++ quotedText text) ++ "\n]"

/-- What came out for one symbol. -/
structure Finding where
  symbol : String
  route : Route
  answer : Except ResolveError Explanation

namespace Finding

/-- Whether the symbol could not be resolved. -/
def failed (finding : Finding) : Bool := !finding.answer.isOk

/-- The record of a symbol in text. -/
def textLine (finding : Finding) : Line :=
  match finding.answer with
  | .ok explanation => .output explanation.display
  | .error error =>
    .error (finding.symbol ++ " -> " ++ finding.route.display ++ ": " ++ error.message)

/-- The record of a symbol as an object, with its members in the order of their names. -/
def jsonLine (finding : Finding) : Line :=
  match finding.answer with
  | .ok explanation => .output (objectText [
      ("loader", Text.ofNat explanation.loader.number),
      ("location", quotedText explanation.location),
      ("route", quotedText explanation.route.display),
      ("sha256", quotedText (Text.Hex.encode explanation.digest)),
      ("symbol", quotedText explanation.symbol)])
  | .error error => .output (objectText [
      ("error", quotedText error.message),
      ("route", quotedText finding.route.display),
      ("symbol", quotedText finding.symbol)])

/-- The record of a symbol. -/
def line (json : Bool) (finding : Finding) : Line :=
  if json then finding.jsonLine else finding.textLine

end Finding

/-- The record of a symbol of which only the route is told. -/
def routeLine (json : Bool) (policy : Policy) (symbol : String) : Line :=
  let route := (policy.route symbol).display
  if json then .output (objectText [("route", quotedText route), ("symbol", quotedText symbol)])
  else .output (symbol ++ " -> " ++ route)

/-- What comes out for symbols that are resolved in a boundary, one after the other. Neither hosts
nor boundaries break off. -/
def findings (boundary : LoaderRef) : List String → System → List Finding
  | [], _ => []
  | symbol :: symbols, system =>
    -- the loaders keep what they made, so the next symbol meets another system
    let (answer, after) := system.explain boundary symbol
    let answer := match answer with
      | .done answer => answer
      | .crashed _ => .error (.notFound symbol)
    { symbol, route := system.routeOf boundary symbol, answer } :: findings boundary symbols after

namespace Report

/-- The report of a run that does nothing else than to fail. -/
def failed (message reason : String) : Report := ⟨[], .failure message (some reason)⟩

/-- The report on a scan. -/
def ofScan (json : Bool) : Except ArchiveError StringSet → Report
  | .error error => failed "scan failed" error.message
  | .ok names =>
    ⟨if json then [.output (listText names.toList)] else names.toList.map .output, .success⟩

/-- The report on what came out for symbols. -/
def ofFindings (json : Bool) (findings : List Finding) : Report where
  lines := findings.map (Finding.line json)
  ending :=
    let failures := findings.countP Finding.failed
    if failures = 0 then .success
    else .failure (Text.ofNat failures ++ " of " ++ Text.ofNat findings.length ++
      " symbols could not be resolved") none

end Report

/-- A system whose files do not change, with the boundary of a policy file below its host. -/
def assemble (files : FileSystem) (file : PolicyFile) : Except Report (LoaderRef × System) :=
  match ({ files } : System).makeHost (file.archivesOfHost files) .empty processStore with
  | (.error error, _) => .error (.failed "cannot open host archives" error.message)
  | (.ok host, system) =>
    match system.makeBoundary (file.policy files) host .empty with
    | (.error error, _) => .error (.failed "cannot build boundary" error.message)
    | (.ok boundary, system) => .ok (boundary, system)

/-- The report on symbols that are resolved under a policy file. -/
def resolveReport (files : FileSystem) (file : PolicyFile) (symbols : List String) (json : Bool) :
    Report :=
  match assemble files file with
  | .error report => report
  | .ok (boundary, system) => .ofFindings json (findings boundary symbols system)

/-- The report on a task. -/
def Task.report (files : FileSystem) : Task → Report
  | scan archives kind ignored json =>
    .ofScan json (Isolation.scan files (archives.map (Archive.ofPath files)) ignored kind)
  | resolve policy symbols routeOnly json =>
    match PolicyFile.load files policy with
    | .error error => .failed ("cannot load policy " ++ policy) error.message
    | .ok file =>
      if routeOnly then ⟨symbols.map (routeLine json (file.policy files)), .success⟩
      else resolveReport files file symbols json

/-- The name of the program and its version. -/
def versionText : String := "enclave 0.1.0"

/-- How the program is used. -/
def usage : List String := [
  "Usage: enclave [--log-level <LEVEL>] <COMMAND>",
  "",
  "Commands:",
  "  scan [--units] [--ignore <PREFIX>]... [--json] <ARCHIVES>...",
  "      List the packages (or units) contained in archives",
  "  resolve --policy <FILE> [--route-only] [--json] <SYMBOLS>...",
  "      Explain how a policy file routes and resolves symbols",
  "  help",
  "      Print this text"]

/-- The report on a command line. -/
def report (files : FileSystem) (words : List String) : Report :=
  match Task.ofWords words with
  | .ok task => task.report files
  | .error .version => ⟨[.output versionText], .success⟩
  | .error .help => ⟨usage.map .output, .success⟩
  | .error .misuse => ⟨usage.map .error, .misuse⟩

namespace Report

/-- The exit code. -/
def code (report : Report) : Nat :=
  match report.ending with
  | .success => 0
  | .failure _ _ => 1
  | .misuse => 2

/-- Lines as text. -/
def joinLines (lines : List String) : String := String.join (lines.map fun line => line ++ "\n")

/-- The standard output. -/
def output (report : Report) : String :=
  joinLines (report.lines.filterMap fun line =>
    match line with
    | .output text => some text
    | .error _ => none)

/-- What is told of a failure: its message, and its reason after an empty line. -/
def farewell (report : Report) : List String :=
  match report.ending with
  | .failure message none => ["Error: " ++ message]
  | .failure message (some reason) => ["Error: " ++ message, "", "Caused by:", "    " ++ reason]
  | _ => []

/-- The standard error. -/
def errors (report : Report) : String :=
  joinLines (report.lines.filterMap (fun line =>
    match line with
    | .output _ => none
    | .error text => some text) ++ report.farewell)

end Report

end Isolation.CommandLine
