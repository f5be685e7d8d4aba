import Isolation.CommandLine.Report
import Isolation.Proofs.Envelope.Scalar
import Isolation.Proofs.Loader.Lookup
import Isolation.Proofs.Policy.Discovery

/-!
# The routes that are reported

A report tells the route of each symbol on a line of its own. Without opening any archive it is the
route by the policy as it is written; when symbols are resolved it is the route by the policy that
the boundary goes by, which includes the packages that were discovered. The two differ at most for
symbols that the written policy leaves to the host.

## Main definitions

* `CommandLine.told?` — the route that is read off a line
* `CommandLine.Report.Tells` — the routes of a report
* `CommandLine.chainOf` — the loaders of a policy file

## Main results

* `CommandLine.encode_objectText` — objects on one line are documents
* `CommandLine.findings_concern` — boundaries keep their policies, symbol after symbol
* `CommandLine.report_routes` — both kinds of reports
-/

namespace Isolation

open Text Json

/-! ### Objects on one line -/

namespace CommandLine

theorem encode_quotedText (text : String) :
    Utf8.encode (quotedText text) = (Node.ofString text).render := by
  have hquote : Utf8.encodeChars "\"".toList = [0x22] := rfl
  simp only [quotedText, Utf8.encode, String.toList_append, String.toList_ofList,
    Utf8.encodeChars_append, hquote, Node.ofString, Node.render, Node.tokens, List.flatMap_cons,
    List.flatMap_nil, Token.render, quoted, List.cons_append, List.nil_append, List.append_nil]

theorem encode_ofNat (n : Nat) : Utf8.encode (Text.ofNat n) = (Node.ofInt n).render := by
  have hdigits : ∀ c ∈ natDigits n, c.toNat < 0x80 := by
    intro c hc
    have hdigit := isDigit_of_mem_natDigits hc
    simp only [Char.isDigit, ge_iff_le, Bool.and_eq_true, decide_eq_true_eq,
      UInt32.le_iff_toNat_le] at hdigit
    have hval : c.val.toNat = c.toNat := rfl
    have hhigh : c.val.toNat ≤ 57 := hdigit.2
    omega
  have hbytes : Utf8.encode (Text.ofNat n) = Number.digitBytes (natDigits n) := by
    rw [Utf8.encode, Text.ofNat, String.toList_ofList, Utf8.encodeChars_ascii hdigits,
      Number.digitBytes]
  rw [hbytes]
  simp [Node.ofInt, Node.render, Node.tokens, Token.render, Number.ofInt, Number.render]

/-- The members of an object in a text and in a document. -/
def Spells (members : List (String × String)) (fields : List (String × Node)) : Prop :=
  List.Forall₂ (fun member field =>
    member.1 = field.1 ∧ Utf8.encode member.2 = field.2.render) members fields

theorem encode_member {member : String × String} {field : String × Node}
    (key : member.1 = field.1) (value : Utf8.encode member.2 = field.2.render) :
    Utf8.encode (quotedText member.1 ++ ":" ++ member.2) =
      (Token.string (quoted field.1)).render ++ ([0x3A] ++ field.2.render) := by
  have hcolon : Utf8.encode ":" = [0x3A] := rfl
  have hstring : Utf8.encode (quotedText field.1) = (Token.string (quoted field.1)).render :=
    (encode_quotedText field.1).trans (List.append_nil _)
  rw [Utf8.encode_append, Utf8.encode_append, key, value, hstring, hcolon, List.append_assoc]

/-- The members of an object up to its end. -/
theorem Spells.encode_members {members : List (String × String)} {fields : List (String × Node)}
    (spells : Spells members fields) :
    Utf8.encode (",".intercalate
      (members.map fun member => quotedText member.1 ++ ":" ++ member.2)) ++ [0x7D] =
      (Node.memberTokens (fields.map fun field => (quoted field.1, field.2))).flatMap
        Token.render := by
  have hcomma : Utf8.encode "," = [0x2C] := rfl
  induction spells with
  | nil => rfl
  | cons h spells ih =>
    have hmember := encode_member h.1 h.2
    -- a comma follows a member only if there is another
    cases spells with
    | nil =>
      rw [List.map_singleton, String.intercalate_singleton, hmember]
      simp only [List.map_cons, List.map_nil, Node.memberTokens, Node.moreMemberTokens,
        List.cons_append, List.flatMap_cons, List.flatMap_append, List.flatMap_nil, Node.render,
        Token.render, List.nil_append, List.append_assoc, List.append_nil]
    | cons h' spells =>
      simp only [List.map_cons] at ih ⊢
      rw [String.intercalate_cons_cons, Utf8.encode_append, Utf8.encode_append, hmember, hcomma,
        List.append_assoc, List.append_assoc, ih]
      simp only [Node.memberTokens, Node.moreMemberTokens, List.cons_append, List.flatMap_cons,
        List.flatMap_append, Node.render, Token.render, List.nil_append, List.append_assoc]

/-- An object on one line is a document. -/
theorem encode_objectText {members : List (String × String)} {fields : List (String × Node)}
    (spells : Spells members fields) :
    Utf8.encode (objectText members) = (Node.ofFields fields).render := by
  have hopen : Utf8.encode "\x7b" = [0x7B] := rfl
  have hclose : Utf8.encode "\x7d" = [0x7D] := rfl
  rw [objectText, Utf8.encode_append, Utf8.encode_append, hopen, hclose, List.append_assoc,
    spells.encode_members]
  rfl

/-! ### Reading a line -/

/-- The route of a name. -/
def routeNamed? (name : String) : Option Route :=
  [Route.excluded, .isolated, .delegated].find? fun route => route.display = name

theorem routeNamed?_display (route : Route) : routeNamed? route.display = some route := by
  cases route <;> decide

/-- The text of a line. -/
def Line.text : Line → String
  | .output text => text
  | .error text => text

/-- The route that a line of text tells of a symbol: the letters behind the symbol and an arrow. -/
def routeInText? (symbol text : String) : Option Route :=
  let front := (symbol ++ " -> ").toList
  if front.isPrefixOf text.toList then
    routeNamed? (String.ofList ((text.toList.drop front.length).takeWhile Char.isAlpha))
  else none

/-- The route that a document tells of a symbol. -/
def routeInJson? (symbol text : String) : Option Route := do
  let node ← Node.parse? (Utf8.encode text)
  let fields ← node.fields? ["route", "symbol"]
  if (← (← Node.field? "symbol" fields).asString?) = symbol then
    routeNamed? (← (← Node.field? "route" fields).asString?)
  else none

/-- The route that a line tells of a symbol. -/
def told? (json : Bool) (symbol : String) (line : Line) : Option Route :=
  if json then routeInJson? symbol line.text else routeInText? symbol line.text

/-- A report has a line for each symbol, in order, which tells its route. -/
def Report.Tells (report : Report) (json : Bool) (routes : String → Route) (symbols : List String) :
    Prop :=
  List.Forall₂ (fun symbol line => told? json symbol line = some (routes symbol)) symbols
    report.lines

/-- What a report tells of its symbols says nothing of others. -/
theorem Report.Tells.congr {report : Report} {json : Bool} {routes routes' : String → Route}
    {symbols : List String} (tells : report.Tells json routes symbols)
    (same : ∀ symbol ∈ symbols, routes symbol = routes' symbol) :
    report.Tells json routes' symbols := by
  rw [Tells] at *
  generalize report.lines = lines at *
  induction tells with
  | nil => exact .nil
  | cons told rest ih =>
    obtain ⟨hfirst, hrest⟩ := List.forall_mem_cons.1 same
    exact .cons (hfirst ▸ told) (ih hrest)

section Told

variable {symbol : String} {route : Route}

/-- Behind the name of a route there is its end, or what is no letter. -/
theorem routeInText?_append (symbol : String) (route : Route) {rest : String}
    (h : ∀ c ∈ rest.toList.head?, c.isAlpha = false) :
    routeInText? symbol (symbol ++ " -> " ++ (route.display ++ rest)) = some route := by
  have hlist : (symbol ++ " -> " ++ (route.display ++ rest)).toList =
      (symbol ++ " -> ").toList ++ (route.display.toList ++ rest.toList) := by
    simp only [String.toList_append]
  have hprefix : (symbol ++ " -> ").toList.isPrefixOf
      ((symbol ++ " -> ").toList ++ (route.display.toList ++ rest.toList)) = true :=
    List.isPrefixOf_iff_prefix.2 (List.prefix_append _ _)
  have hletters : ∀ c ∈ route.display.toList, c.isAlpha = true := by
    rw [← List.all_eq_true]
    cases route <;> rfl
  have hrest : rest.toList.takeWhile Char.isAlpha = [] := by
    cases hcs : rest.toList with
    | nil => rfl
    | cons c cs => exact List.takeWhile_cons_of_neg (by simpa using h c (by simp [hcs]))
  simp only [routeInText?, hlist]
  rw [if_pos hprefix, List.drop_left, List.takeWhile_append_of_pos hletters, hrest, List.append_nil,
    String.ofList_toList, routeNamed?_display]

/-- An object with the symbol and the route among its members. -/
theorem routeInJson?_objectText {members : List (String × String)} {fields : List (String × Node)}
    (spells : Spells members fields) (sound : ∀ field ∈ fields, field.2.Sound)
    (distinct : (fields.map Prod.fst).Nodup)
    (told : fields.filter (fun field => ["route", "symbol"].contains field.1) =
      [("route", .ofString route.display), ("symbol", .ofString symbol)]) :
    routeInJson? symbol (objectText members) = some route := by
  rw [routeInJson?, encode_objectText spells, (Node.sound_ofFields sound).parse?_render]
  simp only [bind, Option.bind, Node.fields?_ofFields _ distinct, told]
  simp [Node.field?, Node.asString?_ofString, routeNamed?_display]

/-- A line with nothing but the route. -/
theorem told?_routeLine (json : Bool) (policy : Policy) (symbol : String) :
    told? json symbol (routeLine json policy symbol) = some (policy.route symbol) := by
  cases json with
  | false =>
    have hline : symbol ++ " -> " ++ (policy.route symbol).display =
        symbol ++ " -> " ++ ((policy.route symbol).display ++ "") := by rw [String.append_empty]
    simp only [told?, routeLine, Bool.false_eq_true, if_false, Line.text, hline]
    exact routeInText?_append symbol _ nofun
  | true =>
    let fields : List (String × Node) :=
      [("route", .ofString (policy.route symbol).display), ("symbol", .ofString symbol)]
    have spells : Spells [("route", quotedText (policy.route symbol).display),
        ("symbol", quotedText symbol)] fields :=
      .cons ⟨rfl, encode_quotedText _⟩ (.cons ⟨rfl, encode_quotedText _⟩ .nil)
    have sound : ∀ field ∈ fields, field.2.Sound := by simp [fields, Node.sound_ofString]
    exact routeInJson?_objectText spells sound (by simp [fields]) (by simp [fields])

/-- A finding is on a symbol and has one route for it, also in its explanation if there is one. -/
structure Finding.Concerns (finding : Finding) (symbol : String) (route : Route) : Prop where
  symbol_eq : finding.symbol = symbol
  route_eq : finding.route = route
  explained : ∀ {explanation}, finding.answer = .ok explanation →
    explanation.symbol = symbol ∧ explanation.route = route

variable {finding : Finding}

theorem Finding.Concerns.told?_textLine (concerns : finding.Concerns symbol route) :
    told? false symbol finding.textLine = some route := by
  simp only [told?, Bool.false_eq_true, if_false, Finding.textLine]
  cases hanswer : finding.answer with
  | ok explanation =>
    obtain ⟨rfl, rfl⟩ := concerns.explained hanswer
    have hline : explanation.display = explanation.symbol ++ " -> " ++ (explanation.route.display ++
        (" (" ++ explanation.loader.display ++ ") " ++ explanation.location)) := by
      simp only [Explanation.display, String.append_assoc]
    simp only [Line.text, hline]
    exact routeInText?_append _ _ (by simp)
  | error error =>
    obtain rfl := concerns.symbol_eq
    obtain rfl := concerns.route_eq
    have hline : finding.symbol ++ " -> " ++ finding.route.display ++ ": " ++ error.message =
        finding.symbol ++ " -> " ++ (finding.route.display ++ (": " ++ error.message)) := by
      simp only [String.append_assoc]
    simp only [Line.text, hline]
    exact routeInText?_append _ _ (by simp)

theorem Finding.Concerns.told?_jsonLine (concerns : finding.Concerns symbol route) :
    told? true symbol finding.jsonLine = some route := by
  simp only [told?, if_true, Finding.jsonLine]
  cases hanswer : finding.answer with
  | ok explanation =>
    obtain ⟨rfl, rfl⟩ := concerns.explained hanswer
    let fields : List (String × Node) := [
      ("loader", .ofInt explanation.loader.number),
      ("location", .ofString explanation.location),
      ("route", .ofString explanation.route.display),
      ("sha256", .ofString (Hex.encode explanation.digest)),
      ("symbol", .ofString explanation.symbol)]
    have sound : ∀ field ∈ fields, field.2.Sound := by
      simp [fields, Node.sound_ofString, Node.sound_ofInt]
    exact routeInJson?_objectText
      (show Spells _ fields from .cons ⟨rfl, encode_ofNat _⟩ (.cons ⟨rfl, encode_quotedText _⟩
        (.cons ⟨rfl, encode_quotedText _⟩ (.cons ⟨rfl, encode_quotedText _⟩
          (.cons ⟨rfl, encode_quotedText _⟩ .nil)))))
      sound (by simp [fields]) (by simp [fields])
  | error error =>
    obtain rfl := concerns.symbol_eq
    obtain rfl := concerns.route_eq
    let fields : List (String × Node) := [
      ("error", .ofString error.message),
      ("route", .ofString finding.route.display),
      ("symbol", .ofString finding.symbol)]
    have sound : ∀ field ∈ fields, field.2.Sound := by simp [fields, Node.sound_ofString]
    exact routeInJson?_objectText
      (show Spells _ fields from .cons ⟨rfl, encode_quotedText _⟩
        (.cons ⟨rfl, encode_quotedText _⟩ (.cons ⟨rfl, encode_quotedText _⟩ .nil)))
      sound (by simp [fields]) (by simp [fields])

/-- The record of a symbol tells its route. -/
theorem Finding.Concerns.told?_line (concerns : finding.Concerns symbol route) (json : Bool) :
    told? json symbol (finding.line json) = some route := by
  cases json with
  | false => exact concerns.told?_textLine
  | true => exact concerns.told?_jsonLine

end Told

end CommandLine

/-! ### Findings -/

/-- Among loaders without relays there is a boundary of a given policy. -/
structure System.Serves (system : System) (ref : LoaderRef) (policy : Policy) : Prop where
  layered : system.loaders.Layered
  boundary : ∃ boundary, system.loaders.get? ref = some (.boundary boundary) ∧
    boundary.policy = policy

namespace System.Serves

variable {system : System} {ref : LoaderRef} {policy : Policy}

theorem routeOf (serves : system.Serves ref policy) (symbol : String) :
    system.routeOf ref symbol = policy.route symbol := by
  obtain ⟨boundary, here, rfl⟩ := serves.boundary
  rw [System.routeOf, Loaders.boundary?, here]

/-- Boundaries keep their policies, whatever they are asked. -/
theorem resolve (serves : system.Serves ref policy) (other : LoaderRef) (symbol : String) :
    (system.resolve other symbol).2.Serves ref policy := by
  obtain ⟨layered, boundary, here, rfl⟩ := serves
  have hframe := System.resolve_frame layered other symbol
  obtain ⟨loader, here', heq⟩ := Loaders.exists_of_frame hframe here
  obtain ⟨after, rfl, hpolicy, -⟩ := Loader.exists_boundary_of_frame heq
  exact ⟨layered.of_frame hframe, after, here', hpolicy⟩

/-- What a boundary explains has the route by its policy. -/
theorem explain (serves : system.Serves ref policy) {symbol : String} {explanation : Explanation}
    (h : (system.explain ref symbol).1 = .done (.ok explanation)) :
    explanation.symbol = symbol ∧ explanation.route = policy.route symbol := by
  rw [System.explain] at h
  split at h
  · next answer after _ =>
    cases answer with
    | error error => cases h
    | ok unit =>
      cases h
      exact ⟨rfl, serves.routeOf symbol⟩
  · cases h

end System.Serves

namespace CommandLine

/-- There is a finding for each symbol, with the route by the policy of the boundary. -/
theorem findings_concern {ref : LoaderRef} {policy : Policy} (symbols : List String)
    {system : System} (serves : system.Serves ref policy) :
    List.Forall₂ (fun symbol finding => finding.Concerns symbol (policy.route symbol)) symbols
      (findings ref symbols system) := by
  induction symbols generalizing system with
  | nil => exact .nil
  | cons symbol symbols ih =>
    have hafter : (system.explain ref symbol).2.Serves ref policy := by
      rw [System.explain_snd]
      exact serves.resolve ref symbol
    refine .cons ⟨rfl, serves.routeOf symbol, ?_⟩ (ih hafter)
    intro explanation h
    dsimp only at h
    split at h
    · next answer hanswer => exact serves.explain (hanswer.trans (congrArg _ h))
    · cases h

/-! ### Reports on symbols -/

section Reports

variable {files : FileSystem} {file : PolicyFile} {opened isolated : List OpenArchive}

/-- The loaders of a policy file: a host on its archives, and a boundary by a policy below it. -/
def chainOf (files : FileSystem) (file : PolicyFile) (policy : Policy) : Chain :=
  .boundary ⟨2⟩ policy .empty (.host ⟨1⟩ (file.archivesOfHost files) .empty)

/-- Both of them by their references. -/
def chainsOf (files : FileSystem) (file : PolicyFile) (policy : Policy) (ref : LoaderRef) : Chain :=
  if ref = 0 then .host ⟨1⟩ (file.archivesOfHost files) .empty else chainOf files file policy

/-- If all archives can be opened, the boundary of a policy file is built, and it and the host agree
with what they were built of. -/
theorem exists_assemble_mirrored {effective : Policy}
    (hostOpens : openAll files (file.archivesOfHost files) = .ok opened)
    (discovers : System.effectivePolicy files (file.policy files) = .ok effective)
    (opens : openAll files effective.archives = .ok isolated) :
    ∃ boundary system chains, assemble files file = .ok (boundary, system) ∧
      system.Serves boundary effective ∧ system.files = files ∧
      Loaders.Mirrors files system.loaders chains ∧
      chains boundary = chainOf files file effective := by
  let host : Host :=
    { id := ⟨1⟩, archives := file.archivesOfHost files, opened, registry := .empty
      context := processStore }
  let hosting : System := { files, loaders := { list := [.host host], nextId := 2 } }
  have hhost : ({ files } : System).makeHost (file.archivesOfHost files) .empty processStore =
      (.ok 0, hosting) := by
    rw [System.makeHost, hostOpens]
    rfl
  have hlayered : hosting.loaders.Layered := by
    have hstep := ({ files } : System).makeHost_step (file.archivesOfHost files) .empty processStore
    rw [hhost] at hstep
    exact (Loaders.layered_nil rfl).step hstep.2
  have hdiscovers : System.effectivePolicy hosting.files (file.policy files) = .ok effective :=
    discovers
  obtain ⟨context, stores, -, hmake⟩ := System.exists_makeBoundary 0 .empty hdiscovers opens
  have hstep := (hosting.makeBoundary_step (file.policy files) .empty Nat.zero_lt_one).2
  rw [hmake] at hstep
  refine ⟨1, _, chainsOf files file effective, ?_,
    ⟨hlayered.step hstep, _, Loaders.get?_extend_self _, rfl⟩, rfl, ?_, rfl⟩
  · simp only [assemble, hhost, hmake]
    rfl
  · intro ref loader here
    -- neither has kept anything yet
    have fresh (chain : Chain) : Loaders.Kept files chain ∅ := by
      intro symbol unit found
      rw [StringMap.find?_empty] at found
      cases found
    rcases ref with _ | _ | ref
    · cases here
      exact .host hostOpens (fresh _)
    · cases here
      have below : chainsOf files file effective 1 =
          .boundary ⟨2⟩ effective .empty (chainsOf files file effective 0) := rfl
      rw [below]
      exact .boundary rfl rfl opens hostOpens (fun held h => absurd h (Option.not_mem_none held))
        (fresh _)
    · cases here

/-- If all archives can be opened, the boundary of a policy file is built. -/
theorem exists_assemble {effective : Policy}
    (hostOpens : openAll files (file.archivesOfHost files) = .ok opened)
    (discovers : System.effectivePolicy files (file.policy files) = .ok effective)
    (opens : openAll files effective.archives = .ok isolated) :
    ∃ boundary system, assemble files file = .ok (boundary, system) ∧
      system.Serves boundary effective := by
  obtain ⟨boundary, system, -, hassemble, serves, -⟩ :=
    exists_assemble_mirrored hostOpens discovers opens
  exact ⟨boundary, system, hassemble, serves⟩

/-- Symbols of which only the routes are told have those of the policy as it is written. -/
theorem tells_routeLines (json : Bool) (policy : Policy) (symbols : List String) :
    (⟨symbols.map (routeLine json policy), .success⟩ : Report).Tells json policy.route symbols := by
  rw [Report.Tells, List.forall₂_map_right_iff, List.forall₂_same]
  exact fun symbol _ => told?_routeLine json policy symbol

/-- Symbols that are resolved have the routes by the policy of the boundary. -/
theorem tells_findings {ref : LoaderRef} {policy : Policy} {system : System}
    (serves : system.Serves ref policy) (json : Bool) (symbols : List String) :
    (Report.ofFindings json (findings ref symbols system)).Tells json policy.route symbols := by
  rw [Report.Tells, Report.ofFindings, List.forall₂_map_right_iff]
  exact (findings_concern symbols serves).imp fun _ _ concerns => concerns.told?_line json

/-- Under a policy file that loads and of which all archives can be opened, two reports tell the
routes of the same symbols. Where nothing but the routes is asked for, they are those of the policy
as it is written. Where the symbols are resolved, a symbol is isolated also if the policy discovers
packages, leaves the symbol to the host, and finds a package that the symbol begins with; all other
routes are the same. The packages are always found, as long as the directories can be read
throughout. -/
theorem report_routes {words words' symbols : List String} {path : String} {json json' : Bool}
    (routesOnly : Task.ofWords words = .ok (.resolve path symbols true json))
    (resolving : Task.ofWords words' = .ok (.resolve path symbols false json'))
    (loads : PolicyFile.load files path = .ok file)
    (hostOpens : openAll files (file.archivesOfHost files) = .ok opened)
    (opens : openAll files (file.isolatedArchives files) = .ok isolated) :
    ∃ packages, scan files (file.isolatedArchives files) file.ignores .packages = .ok packages ∧
      (report files words).Tells json (file.policy files).route symbols ∧
      (report files words').Tells json'
        (fun symbol =>
          if file.discover = true ∧ (file.policy files).route symbol = .delegated ∧
              Symbol.matchesAny symbol packages.toList = true then .isolated
          else (file.policy files).route symbol)
        symbols := by
  obtain ⟨packages, found⟩ := exists_scan file.ignores .packages opens
  refine ⟨packages, found, ?_, ?_⟩
  · simp only [report, routesOnly, Task.report, loads, if_true]
    exact tells_routeLines json (file.policy files) symbols
  · obtain ⟨effective, discovers, hroute⟩ :=
      System.route_effectivePolicy (file.policy files) found
    have hopens : openAll files effective.archives = .ok isolated := by
      rw [System.archives_of_effectivePolicy discovers]
      exact opens
    obtain ⟨boundary, system, hassemble, serves⟩ := exists_assemble hostOpens discovers hopens
    simp only [report, resolving, Task.report, loads, Bool.false_eq_true, if_false, resolveReport,
      hassemble]
    have htells := tells_findings serves json' symbols
    rw [show effective.route = _ from funext hroute] at htells
    exact htells

end Reports

/-- A policy file that discovers packages in a directory, in which there is one. -/
def discoveringFiles : FileSystem where
  root := .directory [
    ("lib", .directory [("pkg", .directory [("X.unit", .file [120])])]),
    ("p.toml", .file
      (Utf8.encode "[policy]\ndiscover = true\n\n[[archive]]\npath = \"lib\"\n"))]
  working := []

/-- The contents of the policy file. -/
def discoveringFile : PolicyFile :=
  { discover := true, archives := [{ path := "lib", kind := none }], base := some "" }

theorem ofWords_routesOnly :
    Task.ofWords ["resolve", "-p", "p.toml", "--route-only", "--json", "pkg.X"] =
      .ok (.resolve "p.toml" ["pkg.X"] true true) := by
  decide +kernel

theorem ofWords_resolving :
    Task.ofWords ["resolve", "-p", "p.toml", "pkg.X"] =
      .ok (.resolve "p.toml" ["pkg.X"] false false) := by
  decide +kernel

theorem load_discoveringFiles :
    PolicyFile.load discoveringFiles "p.toml" = .ok discoveringFile := by
  decide +kernel

theorem openAll_discoveringFiles :
    openAll discoveringFiles (discoveringFile.isolatedArchives discoveringFiles) =
      .ok [.directory "lib"] := by
  with_unfolding_all rfl

/-- The symbol is left to the host by the policy as it is written, and begins with a package that is
discovered. -/
theorem report_routes_package :
    (report discoveringFiles ["resolve", "-p", "p.toml", "--route-only", "--json", "pkg.X"]).Tells
        true (fun _ => .delegated) ["pkg.X"] ∧
      (report discoveringFiles ["resolve", "-p", "p.toml", "pkg.X"]).Tells false
        (fun _ => .isolated) ["pkg.X"] := by
  obtain ⟨packages, found, hwritten, hresolved⟩ := report_routes ofWords_routesOnly
    ofWords_resolving load_discoveringFiles rfl openAll_discoveringFiles
  have hscan : scan discoveringFiles (discoveringFile.isolatedArchives discoveringFiles) []
      .packages = .ok (StringSet.ofList ["pkg"]) := by
    with_unfolding_all rfl
  obtain rfl : StringSet.ofList ["pkg"] = packages := Except.ok.inj (hscan.symm.trans found)
  exact ⟨hwritten.congr (by decide +kernel), hresolved.congr (by decide +kernel)⟩

/-- Two reports under one policy file may tell different routes of a symbol. -/
theorem reports_differ : ¬ ∀ (files : FileSystem) (words words' symbols : List String)
    (path : String) (json json' : Bool) (file : PolicyFile) (opened isolated : List OpenArchive),
    Task.ofWords words = .ok (.resolve path symbols true json) →
    Task.ofWords words' = .ok (.resolve path symbols false json') →
    PolicyFile.load files path = .ok file →
    openAll files (file.archivesOfHost files) = .ok opened →
    openAll files (file.isolatedArchives files) = .ok isolated →
    ∃ routes, (report files words).Tells json routes symbols ∧
      (report files words').Tells json' routes symbols := by
  intro h
  obtain ⟨routes, hwritten, hresolved⟩ := h _ _ _ _ _ _ _ _ _ _ ofWords_routesOnly
    ofWords_resolving load_discoveringFiles rfl openAll_discoveringFiles
  have hreport : report discoveringFiles
      ["resolve", "-p", "p.toml", "--route-only", "--json", "pkg.X"] =
        ⟨[.output "\x7b\"route\":\"delegated\",\"symbol\":\"pkg.X\"\x7d"], .success⟩ := by
    decide +kernel
  have hreport' : report discoveringFiles ["resolve", "-p", "p.toml", "pkg.X"] =
      ⟨[.output "pkg.X -> isolated (loader#2) lib!/pkg/X.unit"], .success⟩ := by
    decide +kernel
  rw [hreport] at hwritten
  rw [hreport'] at hresolved
  cases hwritten with
  | cons told =>
    cases hresolved with
    | cons told' =>
      have hroute : routes "pkg.X" = .delegated :=
        Option.some.inj (told.symm.trans (by decide +kernel))
      have hroute' : routes "pkg.X" = .isolated :=
        Option.some.inj (told'.symm.trans (by decide +kernel))
      cases hroute.symm.trans hroute'

end CommandLine

end Isolation
