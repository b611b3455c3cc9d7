import AgentConvert.CommandLine.Run
import AgentConvert.Proofs.Findings.Report

/-!
# Findings on the error channel

Findings are read back from what a run says about them: from lines (`Diagnostics.ofLines?`), or from
the tokens of a JSON list (`JsonText.findings?`). A reader of tokens goes from character to
character, so what it does with a text is what it does with the parts, one behind the other
(`JsonText.Scans.append`).

A quiet run leaves findings out of the lines that it says, but not out of the list; so both formats
show the same findings only if there is none to leave out (`CommandLine.findings_shown`).
-/

namespace AgentConvert

/-- The severity with this name. -/
def Severity.ofName? (s : String) : Option Severity := all.find? (·.name == s)

theorem Severity.ofName?_name (severity : Severity) : ofName? severity.name = some severity := by
  cases severity <;> rfl

/-! ## Tokens -/

namespace JsonText

/-- A token of a JSON text of lists, objects and strings. -/
inductive Token where
  | openList
  | closeList
  | openObject
  | closeObject
  | comma
  | colon
  | text (s : String)
  deriving DecidableEq

/-- The token that a mark is. -/
def mark? (c : Char) : Option Token :=
  [('[', Token.openList), (']', .closeList), ('{', .openObject), ('}', .closeObject), (',', .comma),
    (':', .colon)].lookup c

/-- The character that a letter behind a backslash stands for. -/
def unescaped? (c : Char) : Option Char :=
  [('"', '"'), ('\\', '\\'), ('/', '/'), ('b', '\x08'), ('f', '\x0c'), ('n', '\n'), ('r', '\r'),
    ('t', '\t')].lookup c

/-- The value of a hexadecimal digit. -/
def digit? (c : Char) : Option Nat := (List.range 16).find? fun n => hexDigit n == c.toLower

/-- The character with the code that hexadecimal digits spell. -/
def decoded? (digits : List Char) : Option Char := do
  let code ← digits.foldlM (fun n c => (16 * n + ·) <$> digit? c) 0
  if code.isValidChar then some (Char.ofNat code) else none

/-- Where a reader of tokens stands. -/
inductive Place where
  /-- Between tokens. -/
  | between
  /-- In a string, of which these characters are read. -/
  | inside (cs : List Char)
  /-- Behind a backslash in a string. -/
  | escaped (cs : List Char)
  /-- In a string, among the digits of a code. -/
  | coded (cs digits : List Char)
  deriving DecidableEq

/-- The tokens that a character completes, and where the reader stands behind it. -/
def step : Place → Char → Option (List Token × Place)
  | .between, c =>
    if c = '"' then some ([], .inside [])
    else if c ∈ [' ', '\n', '\r', '\t'] then some ([], .between)
    else (mark? c).map fun t => ([t], .between)
  | .inside cs, c =>
    if c = '"' then some ([.text (String.ofList cs)], .between)
    else if c = '\\' then some ([], .escaped cs)
    else if c.toNat < 0x20 then none
    else some ([], .inside (cs ++ [c]))
  | .escaped cs, c =>
    if c = 'u' then some ([], .coded cs [])
    else (unescaped? c).map fun c => ([], .inside (cs ++ [c]))
  | .coded cs digits, c =>
    if digits.length < 3 then some ([], .coded cs (digits ++ [c]))
    else (decoded? (digits ++ [c])).map fun c => ([], .inside (cs ++ [c]))

/-- The tokens that characters complete, and where the reader stands behind them. -/
def scan (p : Place) : List Char → Option (List Token × Place)
  | [] => some ([], p)
  | c :: cs => do
    let (ts, p) ← step p c
    let (us, p) ← scan p cs
    return (ts ++ us, p)

/-- The tokens of a JSON text. -/
def tokens? (text : String) : Option (List Token) :=
  match scan .between text.toList with
  | some (ts, .between) => some ts
  | _ => none

variable {as bs cs : List Char} {ts us : List Token} {p q : Place}

/-- Characters behind others are read from where the others lead. -/
theorem scan_append (h : scan p as = some (ts, q)) (bs : List Char) :
    scan p (as ++ bs) = (scan q bs).map fun r => (ts ++ r.1, r.2) := by
  induction as generalizing p ts with
  | nil =>
    obtain ⟨rfl, rfl⟩ : [] = ts ∧ p = q := by simpa [scan] using h
    simp
  | cons a as ih =>
    obtain ⟨⟨us, p'⟩, hstep, h⟩ := Option.bind_eq_some_iff.1 h
    obtain ⟨⟨vs, q'⟩, has, h⟩ := Option.bind_eq_some_iff.1 h
    obtain ⟨rfl, rfl⟩ : us ++ vs = ts ∧ q' = q := by simpa using h
    rw [List.cons_append, scan, hstep]
    show (scan p' (as ++ bs)).bind _ = _
    rw [ih has]
    cases scan q' bs <;> simp

/-- Whether characters are read as these tokens. -/
def Scans (cs : List Char) (ts : List Token) : Prop := scan .between cs = some (ts, .between)

instance : Decidable (Scans cs ts) := inferInstanceAs (Decidable (_ = _))

theorem Scans.append (has : Scans as ts) (hbs : Scans bs us) : Scans (as ++ bs) (ts ++ us) := by
  rw [Scans, scan_append has, hbs]
  rfl

theorem Scans.tokens?_eq {text : String} (h : Scans text.toList ts) : tokens? text = some ts := by
  rw [tokens?, h]

/-! ## Strings -/

theorem decoded?_code : ∀ n < 32,
    decoded? ['0', '0', hexDigit (n / 16), hexDigit (n % 16)] = some (Char.ofNat n) := by
  decide

/-- A character is read as it was before it was escaped. -/
theorem scan_escape (read : List Char) (c : Char) :
    scan (.inside read) (escape c) = some ([], .inside (read ++ [c])) := by
  simp only [escape, beq_iff_eq, Bool.or_eq_true]
  split
  · rename_i h
    rcases h with rfl | rfl <;> rfl
  split
  · subst_vars; rfl
  split
  · subst_vars; rfl
  split
  · subst_vars; rfl
  split
  · subst_vars; rfl
  split
  · subst_vars; rfl
  split
  · rename_i hcontrol
    have hcode :
        decoded? ['0', '0', hexDigit (c.toNat / 16), hexDigit (c.toNat % 16)] = some c := by
      rw [decoded?_code c.toNat hcontrol, Char.ofNat_toNat]
    simp [scan, step, hcode]
  · rename_i hquoted _ _ _ _ _ hcontrol
    obtain ⟨hquote, hbackslash⟩ := not_or.1 hquoted
    simp [scan, step, hquote, hbackslash, hcontrol]

theorem scan_escapes (read cs : List Char) :
    scan (.inside read) (cs.flatMap escape) = some ([], .inside (read ++ cs)) := by
  induction cs generalizing read with
  | nil => simp [scan]
  | cons c cs ih =>
    rw [List.flatMap_cons, scan_append (scan_escape read c), ih]
    simp

theorem scans_string (s : String) : Scans (string s).toList [.text s] := by
  have hstring : (string s).toList = ['"'] ++ (s.toList.flatMap escape ++ ['"']) := by
    simp [string]
  have hopens : scan .between ['"'] = some ([], .inside []) := rfl
  have hcloses : scan (.inside s.toList) ['"'] = some ([.text s], .between) := by
    simp [scan, step]
  rw [Scans, hstring, scan_append hopens, scan_append (scan_escapes [] s.toList), List.nil_append,
    hcloses]
  rfl

/-! ## Lists of findings -/

open Diagnostics

/-- The tokens of a finding. -/
def itemTokens (d : Diagnostic) : List Token :=
  [.openObject, .text "severity", .colon, .text d.severity.name, .comma, .text "message", .colon,
    .text d.message, .closeObject]

/-- The tokens of a list of findings. -/
def listTokens : Diagnostics → List Token
  | [] => [.openList, .closeList]
  | d :: ds =>
    .openList :: itemTokens d ++ (ds.flatMap fun d => .comma :: itemTokens d) ++ [.closeList]

/-- The strings among tokens. -/
def texts (ts : List Token) : List String :=
  ts.filterMap fun
    | .text s => some s
    | _ => none

/-- The findings with these keys and values. -/
def ofTexts? : List String → Option Diagnostics
  | key :: severity :: key' :: message :: rest =>
    if key = "severity" ∧ key' = "message" then do
      let severity ← Severity.ofName? severity
      let ds ← ofTexts? rest
      return ⟨severity, message⟩ :: ds
    else none
  | [] => some []
  | _ => none

/-- The findings that a JSON text lists. -/
def findings? (text : String) : Option Diagnostics := do
  let ts ← tokens? text
  let ds ← ofTexts? (texts ts)
  if ts = listTokens ds then some ds else none

theorem scans_jsonItem (d : Diagnostic) : Scans (jsonItem d).toList (itemTokens d) := by
  have hopens : Scans "  \x7b\n    \"severity\": ".toList
      [.openObject, .text "severity", .colon] := by decide
  have hbetween : Scans ",\n    \"message\": ".toList [.comma, .text "message", .colon] :=
    by decide
  have hcloses : Scans "\n  \x7d".toList [.closeObject] := by decide
  have hall := (((hopens.append (scans_string d.severity.name)).append hbetween).append
    (scans_string d.message)).append hcloses
  unfold jsonItem
  simp only [String.toList_append]
  exact hall

theorem scans_items (d : Diagnostic) (ds : Diagnostics) :
    Scans (",\n".intercalate ((d :: ds).map jsonItem)).toList
      (itemTokens d ++ ds.flatMap fun d => .comma :: itemTokens d) := by
  have hcomma : Scans ",\n".toList [.comma] := by decide
  induction ds generalizing d with
  | nil => simpa using scans_jsonItem d
  | cons e ds ih =>
    rw [List.map_cons, List.map_cons, String.intercalate_cons_cons, List.flatMap_cons]
    simp only [String.toList_append]
    simpa using ((scans_jsonItem d).append hcomma).append (ih e)

theorem scans_json (ds : Diagnostics) : Scans ds.json.toList (listTokens ds) := by
  cases ds with
  | nil => decide
  | cons d ds =>
    have hopens : Scans "[\n".toList [.openList] := by decide
    have hcloses : Scans "\n]".toList [.closeList] := by decide
    simp only [json, List.isEmpty_cons, Bool.false_eq_true, ↓reduceIte, String.toList_append]
    exact (hopens.append (scans_items d ds)).append hcloses

theorem texts_items (ds : Diagnostics) : texts (ds.flatMap fun d => .comma :: itemTokens d) =
    ds.flatMap fun d => ["severity", d.severity.name, "message", d.message] := by
  rw [texts, List.filterMap_flatMap]
  rfl

theorem texts_listTokens (ds : Diagnostics) : texts (listTokens ds) =
    ds.flatMap fun d => ["severity", d.severity.name, "message", d.message] := by
  cases ds with
  | nil => rfl
  | cons d ds =>
    have hitems : texts (listTokens (d :: ds)) =
        texts ((d :: ds).flatMap fun d => .comma :: itemTokens d) := by
      simp [texts, listTokens]
    rw [hitems, texts_items]

theorem ofTexts?_listTokens (ds : Diagnostics) : ofTexts? (texts (listTokens ds)) = some ds := by
  rw [texts_listTokens]
  induction ds with
  | nil => rfl
  | cons d ds ih => simp [ofTexts?, Severity.ofName?_name, ih]

/-- All findings are read from the list that they are written as. -/
theorem findings?_json (ds : Diagnostics) : findings? (ds.json ++ "\n") = some ds := by
  have hend : Scans "\n".toList [] := by decide
  have hscans : Scans (ds.json ++ "\n").toList (listTokens ds) := by
    rw [String.toList_append]
    simpa using (scans_json ds).append hend
  rw [findings?, hscans.tokens?_eq]
  simp [ofTexts?_listTokens]

end JsonText

/-! ## Lines of findings -/

/-- The finding that a line shows. -/
def Diagnostic.ofShown? (line : List Char) : Option Diagnostic :=
  Severity.all.findSome? fun severity =>
    (List.isPrefixOf? ("(" ++ severity.name ++ ") ").toList line).map fun message =>
      ⟨severity, String.ofList message⟩

theorem Diagnostic.ofShown?_shown (d : Diagnostic) : ofShown? d.shown.toList = some d := by
  obtain ⟨severity, message⟩ := d
  cases severity <;>
    simp [ofShown?, shown, Severity.all, Severity.name, List.isPrefixOf?]

namespace Diagnostics

variable {ds : Diagnostics}

/-- The findings that the lines of a text show. -/
def ofLines? (text : String) : Option Diagnostics :=
  let pieces := Text.splitLines text.toList
  if pieces.getLast? = some [] then pieces.dropLast.mapM Diagnostic.ofShown? else none

theorem hasLines_shown (h : ∀ d ∈ ds, '\n' ∉ d.message.toList) :
    Text.HasLines ds.shown.toList (ds.map (·.shown.toList)) := by
  refine ⟨?_, List.forall_mem_map.2 fun d hd => Report.lineFeed_not_mem_shown (h d hd)⟩
  rw [shown, String.toList_join, List.flatMap_map, List.flatMap_map]
  exact List.flatMap_congr fun d _ => by simp

/-- Findings are read from the lines that they are written as, if each has one. -/
theorem ofLines?_shown (h : ∀ d ∈ ds, '\n' ∉ d.message.toList) : ofLines? ds.shown = some ds := by
  have hread : (ds.map (·.shown.toList)).mapM Diagnostic.ofShown? = some ds := by
    induction ds with
    | nil => rfl
    | cons d ds ih =>
      rw [List.map_cons, List.mapM_cons, Diagnostic.ofShown?_shown,
        ih fun d hd => h d (List.mem_cons_of_mem _ hd)]
      rfl
  rw [ofLines?, (hasLines_shown h).splitLines_eq, List.dropLast_concat, hread]
  simp

end Diagnostics

/-! ## Runs -/

namespace CommandLine

/-- The findings that a text shows in a format. -/
def FindingsFormat.findings? : FindingsFormat → String → Option Diagnostics
  | text => Diagnostics.ofLines?
  | json => JsonText.findings?

/-- What a run shows can be read. -/
theorem findings?_findingsText {ds : Diagnostics} (h : ds.Recorded) (format : FindingsFormat)
    (isQuiet : Bool) :
    format.findings? (findingsText format isQuiet ds) = some (shownFindings format isQuiet ds) := by
  cases format with
  | json => exact JsonText.findings?_json ds
  | text =>
    refine Diagnostics.ofLines?_shown fun d hd => ?_
    have hmem : d ∈ ds := by
      unfold shownFindings at hd
      split at hd
      · exact hd
      · split at hd
        · exact (List.mem_filter.1 hd).1
        · exact hd
    exact (Diagnostics.recorded_iff.1 h d hmem).lineFeed_not_mem

/-- What actions say stands behind what was said before. -/
theorem Plan.exists_errors_perform {σ : Type} [FileSystem σ] (exitCode : Nat)
    (actions : List Action) (output : ByteArray) (files : σ) :
    ∃ closing, ∀ errors,
      (perform exitCode output errors files actions).errors = errors ++ closing := by
  induction actions generalizing output files with
  | nil => exact ⟨"", fun errors => (String.append_empty).symm⟩
  | cons action rest ih =>
    cases action with
    | say text =>
      obtain ⟨closing, h⟩ := ih output files
      exact ⟨text ++ closing, fun errors => by rw [perform, h, String.append_assoc]⟩
    | print document =>
      obtain ⟨closing, h⟩ := ih (output ++ document) files
      exact ⟨closing, fun errors => by rw [perform, h]⟩
    | write path content complaint =>
      cases hwrite : FileSystem.write files path content with
      | ok written =>
        obtain ⟨closing, h⟩ := ih output written
        exact ⟨closing, fun errors => by rw [perform, hwrite, h]⟩
      | error reason =>
        refine ⟨"error: " ++ complaint ++ ": " ++ reason ++ "\n", fun errors => ?_⟩
        rw [perform, hwrite]
        simp only [String.append_assoc]

/-- The findings of every conversion are recorded. A run on a conversion with recorded findings says
first what it says about them, and then the same whatever the format is and whether it is quiet or
not. All findings in order are read from what it says as JSON, quiet or not; from its lines, all of
them are read, and just the errors if it is quiet. So both formats show the same findings if and
only if the run is not quiet, or there are errors only. -/
theorem findings_shown (c : Conversion) :
    (∀ (registry : Collector.Registry) (config : SourceConfig), c = config.convert registry →
      c.findings.Recorded) ∧
    (c.findings.Recorded →
      (∀ (σ : Type) [FileSystem σ] (o : Options) (files : σ), ∃ closing, ∀ format isQuiet,
        ((Plan.ofConversion { o with findings := format, isQuiet } c).outcome files).errors =
          findingsText format isQuiet c.findings ++ closing) ∧
      ∀ isQuiet,
        let asJson := FindingsFormat.json.findings? (findingsText .json isQuiet c.findings)
        let asLines := FindingsFormat.text.findings? (findingsText .text isQuiet c.findings)
        asJson = some c.findings ∧
        asLines = some (if isQuiet then c.findings.filter (·.severity = .error) else c.findings) ∧
        (asJson = asLines ↔ isQuiet = false ∨ ∀ d ∈ c.findings, d.severity = .error)) := by
  refine ⟨fun registry config hc => hc ▸ config.recorded_convert registry, fun h =>
    ⟨fun σ _ o files => ?_, fun isQuiet => ?_⟩⟩
  · obtain ⟨closing, hclosing⟩ := Plan.exists_errors_perform (if Plan.isBlocked o c then 1 else 0)
      (Plan.reportActions o c ++ [Plan.delivery o c]) ByteArray.empty files
    refine ⟨closing, fun format isQuiet => ?_⟩
    exact (hclosing _).trans (by rw [String.empty_append])
  intro asJson asLines
  have hjson : asJson = some c.findings := findings?_findingsText h .json isQuiet
  have hlines : asLines =
      some (if isQuiet then c.findings.filter (·.severity = .error) else c.findings) :=
    findings?_findingsText h .text isQuiet
  refine ⟨hjson, hlines, ?_⟩
  rw [hjson, hlines, Option.some_inj]
  cases isQuiet with
  | false => simp
  | true => simp [eq_comm (a := c.findings), List.filter_eq_self]

/-- A run on a warning and an error that is quiet. -/
theorem findings_shown_quiet :
    let ds : Diagnostics := [.warning "one line\nand \"more\"", .error "gone"]
    FindingsFormat.json.findings? (findingsText .json true ds) =
      some [⟨.warning, "one line and \"more\""⟩, ⟨.error, "gone"⟩] ∧
    FindingsFormat.text.findings? (findingsText .text true ds) = some [⟨.error, "gone"⟩] := by
  intro ds
  have hrecorded : ds.Recorded := .add (.add .empty .warning _) .error _
  obtain ⟨hjson, hlines, -⟩ := ((findings_shown ⟨.empty, ds⟩).2 hrecorded).2 true
  rw [hjson, hlines]
  decide +kernel

/-- What is said about a directory that is not converted is a warning: a quiet run shows it as JSON,
and not as a line. -/
theorem findings_differ_stored :
    let config : SourceConfig := .agent { metrics := { walDirectory := some "/w" } }
    let ds := (config.convert .builtin).findings
    let asJson := FindingsFormat.json.findings? (findingsText .json true ds)
    let asLines := FindingsFormat.text.findings? (findingsText .text true ds)
    asJson = some [.warning
      "metrics.wal_directory is not converted; set the storage path command-line flag instead"] ∧
    asLines = some [] ∧ asJson ≠ asLines := by
  decide +kernel

end CommandLine

end AgentConvert
