import Isolation.Proofs.CommandLine.Routes

/-!
# The records of symbols

Symbols that are resolved one after the other go through the same loaders, which keep the units they
made and the archives they opened. As long as the files stay as they are, nothing of that shows:
what comes out for a symbol is what the chain of its boundary has for it.

## Main definitions

* `Finding.ofChain` — what comes out for a symbol, whatever else is asked
* `CommandLine.Report.Records` — a report on what came out for each symbol on its own

## Main results

* `CommandLine.findings_eq_map` — symbols do not depend on each other
* `CommandLine.report_records` — what a report prints, and how it ends
-/

namespace Isolation

/-- What can be told of a unit does not depend on its serial number. -/
theorem Chain.info_of_lookup {files : FileSystem} {symbol : String} {chain : Chain}
    {unit : Nat → LoadedUnit} (h : chain.lookup files symbol = .ok unit) (serial : Nat) :
    (unit serial).info = (unit 0).info := by
  have hstamp {id : LoaderId} {registry : Registry} {found : Except ArchiveError (Option Located)}
      (h : stamp id registry symbol found = .ok unit) : (unit serial).info = (unit 0).info := by
    cases found with
    | error error => cases h
    | ok located =>
      cases located with
      | none => cases h
      | some located =>
        cases h
        rfl
  induction chain with
  | host id archives registry => exact hstamp h
  | boundary id policy registry parent ih =>
    rw [lookup] at h
    split at h
    · exact ih h
    · split at h
      · exact hstamp h
      · split at h
        · exact hstamp h
        · exact ih h

namespace CommandLine

/-- What comes out for a symbol, as far as it depends on nothing but the symbol: the route by a
policy, and what a chain has. -/
def Finding.ofChain (files : FileSystem) (chain : Chain) (policy : Policy) (symbol : String) :
    Finding where
  symbol := symbol
  route := policy.route symbol
  answer := (chain.lookup files symbol).map fun unit =>
    .ofUnit symbol (policy.route symbol) (unit 0).info

section Symbols

variable {system : System} {chains : LoaderRef → Chain} {ref : LoaderRef} {policy : Policy}

/-- What is explained of a symbol is what the chain has for it, and the loaders go on agreeing with
their chains. -/
theorem explain_of_mirrors (serves : system.Serves ref policy)
    (mirrors : Loaders.Mirrors system.files system.loaders chains) (symbol : String) :
    (system.explain ref symbol).1 =
        .done (Finding.ofChain system.files (chains ref) policy symbol).answer ∧
      Loaders.Mirrors system.files (system.explain ref symbol).2.loaders chains := by
  obtain ⟨boundary, here, -⟩ := serves.boundary
  obtain ⟨answer, after, hresolve, answers⟩ :=
    serves.layered.answers system.files symbol (Loaders.get?_eq_some_lt here)
  obtain ⟨⟨serial, found⟩, mirrors'⟩ := mirrors.answers serves.layered answers
  have hsystem : system.resolve ref symbol = (.done answer, { system with loaders := after }) := by
    simp only [System.resolve, hresolve]
  constructor
  · simp only [System.explain, hsystem, serves.routeOf, found, Finding.ofChain]
    cases h : (chains ref).lookup system.files symbol with
    | error error => rfl
    | ok unit => simp only [Except.map, Chain.info_of_lookup h serial]
  · rw [System.explain_snd, hsystem]
    exact mirrors'

/-- What comes out for each of several symbols is what would come out for it alone. -/
theorem findings_eq_map (serves : system.Serves ref policy)
    (mirrors : Loaders.Mirrors system.files system.loaders chains) (symbols : List String) :
    findings ref symbols system =
      symbols.map (Finding.ofChain system.files (chains ref) policy) := by
  -- the induction carries that the loaders agree with their chains, whatever they were asked
  induction symbols generalizing system with
  | nil => rfl
  | cons symbol symbols ih =>
    obtain ⟨hanswer, hmirrors⟩ := explain_of_mirrors serves mirrors symbol
    have hserves : (system.explain ref symbol).2.Serves ref policy := by
      rw [System.explain_snd]
      exact serves.resolve ref symbol
    have hfiles : (system.explain ref symbol).2.files = system.files := by
      rw [System.explain_snd]
      rfl
    rw [← hfiles] at hmirrors
    simp only [findings, hanswer, serves.routeOf, ih hserves hmirrors, hfiles, List.map_cons]
    rfl

end Symbols

/-! ### What is printed for findings -/

theorem Finding.line_eq (json : Bool) (finding : Finding) :
    finding.line json =
      if !json && finding.failed then .error (finding.line json).text
      else .output (finding.line json).text := by
  obtain ⟨symbol, route, answer⟩ := finding
  cases json <;> cases answer <;> rfl

namespace Report

/-- A report on what came out for each of several symbols: a record each, on the standard error if
the symbol failed and no objects are asked for, and otherwise on the standard output, on each of
them in the order of the symbols. The run fails if a symbol does, and then tells how many did out of
all. -/
structure Records (report : Report) (json : Bool) (finding : String → Finding)
    (symbols : List String) : Prop where
  lines : report.lines = symbols.map fun symbol => (finding symbol).line json
  sides : ∀ symbol ∈ symbols, (finding symbol).line json =
    if !json && (finding symbol).failed then .error ((finding symbol).line json).text
    else .output ((finding symbol).line json).text
  output : report.output = joinLines
    ((symbols.filter fun symbol => !(!json && (finding symbol).failed)).map fun symbol =>
      ((finding symbol).line json).text)
  errors : report.errors = joinLines
    ((symbols.filter fun symbol => !json && (finding symbol).failed).map (fun symbol =>
      ((finding symbol).line json).text) ++ report.farewell)
  code : report.code = if ∃ symbol ∈ symbols, (finding symbol).failed = true then 1 else 0
  farewell : report.farewell =
    if ∃ symbol ∈ symbols, (finding symbol).failed = true then
      ["Error: " ++ Text.ofNat (symbols.countP fun symbol => (finding symbol).failed) ++ " of " ++
        Text.ofNat symbols.length ++ " symbols could not be resolved"]
    else []

/-- The lines on one side are the records of the symbols that belong there. -/
theorem filterMap_records {json : Bool} {finding : String → Finding} {side : Line → Option String}
    {belongs : String → Bool} (symbols : List String)
    (h : ∀ symbol, side ((finding symbol).line json) =
      if belongs symbol then some ((finding symbol).line json).text else none) :
    (symbols.map fun symbol => (finding symbol).line json).filterMap side =
      (symbols.filter belongs).map fun symbol => ((finding symbol).line json).text := by
  rw [List.filterMap_map, ← List.filterMap_eq_map, List.filterMap_filter]
  exact List.filterMap_congr fun symbol _ => h symbol

/-- The run fails if something could not be resolved. -/
theorem ending_ofFindings (json : Bool) (finding : String → Finding) (symbols : List String) :
    (ofFindings json (symbols.map finding)).ending =
      if ∃ symbol ∈ symbols, (finding symbol).failed = true then
        .failure (Text.ofNat (symbols.countP fun symbol => (finding symbol).failed) ++ " of " ++
          Text.ofNat symbols.length ++ " symbols could not be resolved") none
      else .success := by
  have hcount : (symbols.map finding).countP Finding.failed =
      symbols.countP fun symbol => (finding symbol).failed := List.countP_map
  simp only [ofFindings, hcount, List.length_map, List.countP_eq_zero]
  by_cases h : ∃ symbol ∈ symbols, (finding symbol).failed = true
  · rw [if_pos h, if_neg (by simpa using h)]
  · rw [if_neg h, if_pos (by simpa using h)]

theorem records_ofFindings (json : Bool) (finding : String → Finding) (symbols : List String) :
    (ofFindings json (symbols.map finding)).Records json finding symbols := by
  have hlines : (ofFindings json (symbols.map finding)).lines =
      symbols.map fun symbol => (finding symbol).line json := by
    rw [ofFindings, List.map_map]
    rfl
  have hending := ending_ofFindings json finding symbols
  refine ⟨hlines, fun symbol _ => (finding symbol).line_eq json, ?_, ?_, ?_, ?_⟩
  · rw [output, hlines, filterMap_records symbols fun symbol => ?_]
    rw [(finding symbol).line_eq json]
    cases !json && (finding symbol).failed <;> rfl
  · rw [errors, hlines, filterMap_records symbols fun symbol => ?_]
    rw [(finding symbol).line_eq json]
    cases !json && (finding symbol).failed <;> rfl
  · by_cases h : ∃ symbol ∈ symbols, (finding symbol).failed = true
    · rw [if_pos h] at hending ⊢
      rw [code, hending]
    · rw [if_neg h] at hending ⊢
      rw [code, hending]
  · by_cases h : ∃ symbol ∈ symbols, (finding symbol).failed = true
    · rw [if_pos h] at hending ⊢
      rw [farewell, hending]
      simp only [String.append_assoc]
    · rw [if_neg h] at hending ⊢
      rw [farewell, hending]

end Report

/-- Under a policy file that loads and of which all archives can be opened, every symbol that is
resolved has the record that it would have alone: it tells the route by the policy of the boundary,
and what the chain of the boundary has for the symbol. -/
theorem report_records {files : FileSystem} {file : PolicyFile} {path : String}
    {opened isolated : List OpenArchive}
    (loads : PolicyFile.load files path = .ok file)
    (hostOpens : openAll files (file.archivesOfHost files) = .ok opened)
    (opens : openAll files (file.isolatedArchives files) = .ok isolated) :
    ∃ effective, System.effectivePolicy files (file.policy files) = .ok effective ∧
      ∀ words symbols json, Task.ofWords words = .ok (.resolve path symbols false json) →
        (report files words).Records json
          (Finding.ofChain files (chainOf files file effective) effective) symbols := by
  obtain ⟨packages, found⟩ := exists_scan file.ignores .packages opens
  obtain ⟨effective, discovers, -⟩ := System.route_effectivePolicy (file.policy files) found
  have hopens : openAll files effective.archives = .ok isolated := by
    rw [System.archives_of_effectivePolicy discovers]
    exact opens
  obtain ⟨boundary, system, chains, hassemble, serves, rfl, mirrors, hchain⟩ :=
    exists_assemble_mirrored hostOpens discovers hopens
  refine ⟨effective, discovers, fun words symbols json resolving => ?_⟩
  simp only [report, resolving, Task.report, loads, Bool.false_eq_true, if_false, resolveReport,
    hassemble, findings_eq_map serves mirrors, hchain]
  exact Report.records_ofFindings json _ symbols

/-- Of three symbols one is not there; the other two are one symbol, and have the same record. -/
theorem report_records_repeated :
    ∃ effective,
      System.effectivePolicy discoveringFiles (discoveringFile.policy discoveringFiles) =
        .ok effective ∧
      (report discoveringFiles ["resolve", "-p", "p.toml", "pkg.X", "pkg.Y", "pkg.X"]).Records false
        (Finding.ofChain discoveringFiles (chainOf discoveringFiles discoveringFile effective)
          effective) ["pkg.X", "pkg.Y", "pkg.X"] ∧
      (report discoveringFiles
        ["resolve", "-p", "p.toml", "pkg.X", "pkg.Y", "pkg.X"]).code = 1 := by
  obtain ⟨effective, discovers, records⟩ :=
    report_records load_discoveringFiles rfl openAll_discoveringFiles
  exact ⟨effective, discovers, records _ _ _ (by decide +kernel), by decide +kernel⟩

end CommandLine

end Isolation
