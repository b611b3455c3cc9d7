import AgentConvert.Conversion
import AgentConvert.Proofs.Collector.Findings
import AgentConvert.Proofs.Embedding.Logs
import AgentConvert.Proofs.Findings.Recorded
import Mathlib.Data.List.Basic

/-!
# Reports

Every list of findings on the way to the result of a conversion is recorded: those of the settings
that several formats share, those of each format, and those of the references and the layout of the
document (`SourceConfig.recorded_convert`).

A report is lines, because its findings are (`Report.hasLines_render`), and it sorts the findings by
their severities: those that are indented are the lines of all findings, each once
(`Report.perm_entries`).
-/

namespace AgentConvert

open Diagnostics

/-! ## Common settings -/

theorem RelabelRule.recorded_rejections (context : String) (rules : List RelabelRule) :
    Recorded (rejections context rules) :=
  recorded_map fun _ _ => Diagnostic.isRecorded_error _

theorem ServerSettings.recorded_agentFindings (s : ServerSettings) : Recorded s.agentFindings :=
  recorded_map fun _ _ => Diagnostic.isRecorded_warning _

theorem ServerSettings.recorded_embeddedFindings (context : String) (s : ServerSettings) :
    Recorded (s.embeddedFindings context) :=
  recorded_when (Diagnostic.isRecorded_warning _)

theorem HttpClient.recorded_findings (context : String) (client : HttpClient) :
    Recorded (client.findings context) :=
  .addAll (recorded_when (Diagnostic.isRecorded_error _))
    (recorded_when (Diagnostic.isRecorded_error _))

/-! ## Log shippers -/

namespace LogShipper

theorem Stage.recorded_rejections (context : String) (vs : List Value) :
    Recorded (rejections context vs) := by
  refine recorded_filterMap fun v _ d hd => ?_
  generalize ofValue v = stage at hd
  cases stage with
  | ok stage => exact absurd hd (by simp)
  | error fault =>
    obtain rfl := Option.some.inj hd
    exact Diagnostic.isRecorded_error _

namespace ScrapeJob

theorem isRecorded_modeFault {job : ScrapeJob} {fault : Diagnostic}
    (h : job.modeFault? = some fault) : fault.IsRecorded := by
  obtain ⟨s, -, hs⟩ := Option.bind_eq_some_iff.1 h
  split at hs
  · obtain rfl := Option.some.inj hs
    exact Diagnostic.isRecorded_error _
  · exact absurd hs (by simp)

theorem recorded_findings (job : ScrapeJob) : Recorded job.findings := by
  unfold findings
  split
  · rename_i fault hfault
    exact recorded_cons.2 ⟨isRecorded_modeFault hfault, .empty⟩
  · refine .addAll (.addAll (RelabelRule.recorded_rejections _ _) (Stage.recorded_rejections _ _)) ?_
    exact recorded_flatMap fun s _ => s.recorded_embeddedFindings _

end ScrapeJob

namespace Config

theorem recorded_findings (config : Config) : Recorded config.findings := by
  simp only [findings, recorded_append]
  refine ⟨⟨⟨⟨⟨?_, ?_⟩, ?_⟩, ?_⟩, ?_⟩, ?_⟩
  · exact recorded_when (Diagnostic.isRecorded_warning _)
  · exact recorded_when (Diagnostic.isRecorded_warning _)
  · exact recorded_when (Diagnostic.isRecorded_warning _)
  · exact recorded_when (Diagnostic.isRecorded_warning _)
  · exact recorded_flatMap fun e _ => HttpClient.recorded_findings _ _
  · exact recorded_flatMap fun job _ => recorded_map fun _ _ => Diagnostic.isRecorded_error _

theorem yields_recorded (config : Config) :
    config.convert.Yields fun d => Recorded d.findings := by
  intro ls
  rw [config.yields_findings_convert ls]
  exact .addAll (.addAll config.server.recorded_agentFindings config.recorded_findings)
    (recorded_flatMap fun job _ => job.recorded_findings)

end Config

end LogShipper

/-! ## Agents -/

namespace Agent

theorem Endpoint.recorded_findings (e : Endpoint) : Recorded e.findings :=
  .addAll (recorded_when (Diagnostic.isRecorded_warning _)) (HttpClient.recorded_findings _ _)

theorem RemoteWrite.recorded_draft (label : String) (endpoints : List Endpoint)
    (externalLabels : Dictionary String) :
    Recorded (draft label endpoints externalLabels).findings :=
  .addAll (recorded_flatMap fun _ _ => RelabelRule.recorded_rejections _ _)
    (Draft.recorded_block _ _ _)

namespace Scrape

theorem recorded_targetRules (label : String) (rules : List RelabelRule) (targets : TargetSource) :
    Recorded (targetRules label rules targets).findings :=
  Draft.recorded_when _ (Draft.recorded_block _ _ _)

theorem recorded_metricRules (label : String) (rules : List RelabelRule)
    (receivers : List String) : Recorded (metricRules label rules receivers).findings :=
  Draft.recorded_when _ (Draft.recorded_block _ _ _)

end Scrape

namespace ScrapeJob

variable {job : ScrapeJob}

theorem recorded_discoveries {d : Discovery} (h : d ∈ job.discoveries) : Recorded d.findings := by
  simp only [discoveries, listedTargets, List.mem_append, List.mem_map] at h
  rcases h with ((((h | ⟨d, -, rfl⟩) | ⟨d, -, rfl⟩) | ⟨d, -, rfl⟩) | ⟨d, -, rfl⟩) | ⟨d, -, rfl⟩
  · split at h
    · exact absurd h (by simp)
    · obtain rfl := List.mem_singleton.1 h
      exact .empty
  · exact .empty
  · exact HttpClient.recorded_findings _ _
  · exact .empty
  · exact HttpClient.recorded_findings _ _
  · exact .empty

theorem recorded_draft (defaults : MetricsDefaults) (receivers : List String) (job : ScrapeJob)
    (label : String) (labels : List String) :
    Recorded (job.draft defaults receivers label labels).findings := by
  have hfound : Recorded (Draft.concat ((job.discoveries.zip labels).map fun e =>
      .report e.1.findings ++ .block e.1.kind e.2 (.record e.1.arguments))).findings := by
    refine Draft.recorded_concat (List.forall_mem_map.2 fun e he => ?_)
    exact .addAll (recorded_discoveries (List.of_mem_zip he).1) (Draft.recorded_block _ _ _)
  unfold draft
  simp only [Draft.findings_append, Draft.findings_report, recorded_append]
  exact ⟨⟨⟨⟨⟨⟨HttpClient.recorded_findings _ _, hfound⟩, RelabelRule.recorded_rejections _ _⟩,
    Scrape.recorded_targetRules _ _ _⟩, RelabelRule.recorded_rejections _ _⟩,
    Draft.recorded_block _ _ _⟩, Scrape.recorded_metricRules _ _ _⟩

theorem yields_recorded (labelBase : String) (defaults : MetricsDefaults)
    (receivers : List String) (job : ScrapeJob) :
    (job.convert labelBase defaults receivers).Yields fun d => Recorded d.findings :=
  fun _ => job.recorded_draft defaults receivers _ _

end ScrapeJob

theorem MetricsInstance.yields_recorded (defaults : MetricsDefaults) (i : MetricsInstance) :
    (i.convert defaults).Yields fun d => Recorded d.findings := by
  refine Labelling.yields_bind (P := fun _ => True) (fun _ => trivial) fun label _ => ?_
  refine Labelling.yields_bind (Labelling.yields_mapM fun job _ =>
    ScrapeJob.yields_recorded i.name defaults _ job) fun jobs hjobs => ?_
  refine Labelling.yields_pure (.addAll (Draft.recorded_concat hjobs) ?_)
  exact Draft.recorded_ofOption fun l => RemoteWrite.recorded_draft l _ _

namespace Integration

theorem recorded_exporterDraft (kind : ExporterKind) (i : Integration) (label : String) :
    Recorded (i.exporterDraft kind label).findings :=
  .addAll (.addAll (Draft.recorded_block _ _ _) (RelabelRule.recorded_rejections _ _))
    (Scrape.recorded_targetRules _ _ _)

theorem recorded_scrapeDraft (kind : ExporterKind) (defaults : MetricsDefaults) (i : Integration)
    (label writeLabel : String) :
    Recorded (i.scrapeDraft kind defaults label writeLabel).findings :=
  .addAll (.addAll (RelabelRule.recorded_rejections _ _) (Draft.recorded_block _ _ _))
    (Scrape.recorded_metricRules _ _ _)

theorem yields_recorded (scrape : Option Bool) (defaults : MetricsDefaults) (kind : ExporterKind)
    (i : Integration) (shared : Option String) :
    (i.convert scrape defaults kind shared).Yields fun r => Recorded r.1.findings := by
  refine Labelling.yields_bind (P := fun _ => True) (fun _ => trivial) fun label _ => ?_
  have hexporter := recorded_exporterDraft kind i label
  split
  · refine Labelling.yields_bind (P := fun _ => True) (fun _ => trivial) fun writeLabel _ => ?_
    exact Labelling.yields_pure (.addAll hexporter (recorded_scrapeDraft kind defaults i _ _))
  · exact Labelling.yields_pure hexporter

end Integration

namespace IntegrationsSection

theorem yields_recorded_convertActive (scrape : Option Bool) (defaults : MetricsDefaults)
    (active : List (ExporterKind × Integration)) (shared : Option String) :
    (convertActive scrape defaults active shared).Yields fun r => Recorded r.1.findings := by
  induction active generalizing shared with
  | nil => exact Labelling.yields_pure .empty
  | cons e active ih =>
    obtain ⟨kind, i⟩ := e
    refine Labelling.yields_bind (i.yields_recorded scrape defaults kind shared) fun r hr => ?_
    exact Labelling.yields_bind (ih r.2) fun rs hrs => Labelling.yields_pure (.addAll hr hrs)

theorem yields_recorded (defaults : MetricsDefaults) (s : IntegrationsSection) :
    (s.convert defaults).Yields fun d => Recorded d.findings := by
  refine Labelling.yields_bind
    (yields_recorded_convertActive s.scrape defaults s.active none) fun r hr => ?_
  refine Labelling.yields_pure (.addAll hr ?_)
  exact Draft.recorded_ofOption fun l => RemoteWrite.recorded_draft l _ _

end IntegrationsSection

theorem LogsSection.yields_recorded (s : LogsSection) :
    s.convert.Yields fun d => Recorded d.findings := by
  intro ls
  rw [s.yields_findings_convert ls]
  refine recorded_flatMap fun i _ => .addAll (LogShipper.Config.recorded_findings _) ?_
  exact recorded_flatMap fun job _ => job.recorded_findings

namespace Config

theorem recorded_jobFindings (job : ScrapeJob) : Recorded (jobFindings job) := by
  refine recorded_map fun key _ => ?_
  dsimp only
  split
  · exact Diagnostic.isRecorded_error _
  · exact Diagnostic.isRecorded_warning _

theorem recorded_findings (config : Config) : Recorded config.findings := by
  simp only [findings, recorded_append]
  refine ⟨⟨⟨⟨⟨⟨⟨config.server.recorded_agentFindings, ?_⟩, ?_⟩, ?_⟩, ?_⟩, ?_⟩, ?_⟩, ?_⟩
  · exact recorded_when (Diagnostic.isRecorded_warning _)
  · exact recorded_when (Diagnostic.isRecorded_error _)
  · exact recorded_when (Diagnostic.isRecorded_error _)
  · exact recorded_map fun name _ => Diagnostic.isRecorded_error _
  · exact recorded_flatMap fun e _ => e.recorded_findings
  · exact recorded_flatMap fun e _ => e.recorded_findings
  · refine recorded_flatMap fun i _ => .addAll ?_ ?_
    · exact recorded_flatMap fun e _ => e.recorded_findings
    · exact recorded_flatMap fun job _ => recorded_jobFindings job

theorem yields_recorded (config : Config) :
    config.convert.Yields fun d => Recorded d.findings := by
  refine Labelling.yields_bind (Labelling.yields_mapM fun i _ =>
    MetricsInstance.yields_recorded config.metrics.defaults i) fun metrics hmetrics => ?_
  refine Labelling.yields_bind (IntegrationsSection.yields_recorded _ _) fun integrations hi => ?_
  have hlogging : Recorded (Draft.ofOption (Draft.block (.ofDotted "logging") "")
      config.server.logging?).findings :=
    Draft.recorded_ofOption fun _ => Draft.recorded_block _ _ _
  have hown := Recorded.addAll (.addAll (.addAll config.recorded_findings hlogging)
    (Draft.recorded_concat hmetrics)) hi
  cases config.logs with
  | none => exact Labelling.yields_pure (.addAll hown .empty)
  | some s =>
    exact Labelling.yields_bind s.yields_recorded fun logs hlogs =>
      Labelling.yields_pure (.addAll hown hlogs)

end Config

end Agent

/-! ## Collectors -/

namespace Collector

theorem Concern.recorded {severity : Severity} {id : InstanceId} {ds : Diagnostics}
    (h : Concern severity id ds) : Recorded ds := by
  refine recorded_iff.2 fun d hd => ?_
  obtain ⟨message, -, rfl⟩ := h d hd
  exact Diagnostic.isRecorded_of _ _

namespace Config

theorem recorded_pipelineFindings (config : Config) (name : String) (stages : Pipeline) :
    Recorded (config.pipelineFindings name stages) := by
  unfold pipelineFindings
  split
  · exact recorded_flatMap fun _ _ => recorded_map fun _ _ => Diagnostic.isRecorded_error _
  · simp

theorem recorded_planFindings (config : Config) : Recorded config.planFindings := by
  simp only [planFindings, recorded_append]
  refine ⟨⟨⟨?_, ?_⟩, ?_⟩, ?_⟩
  · exact recorded_flatMap fun e _ => config.recorded_pipelineFindings e.1 e.2
  · exact recorded_flatMap fun _ _ => recorded_map fun _ _ => Diagnostic.isRecorded_warning _
  · exact recorded_map fun _ _ => Diagnostic.isRecorded_warning _
  · exact recorded_map fun _ _ => Diagnostic.isRecorded_warning _

end Config

theorem Fate.recorded_findings (registry : Registry) (id : InstanceId) (body : Json) :
    Recorded ((Fate.of registry id body).findings id) := by
  unfold Fate.of
  split
  · simp [findings]
  · split
    · simp [findings]
    · dsimp only
      split
      · exact (Converter.concern_faults _ id _).recorded
      · exact (Converter.concern_faults _ id _).recorded

theorem Wiring.recorded_converted (w : Wiring) (id : InstanceId) (kind : ComponentKind)
    (args : Fields) : Recorded (w.converted id kind args).findings := by
  unfold converted
  split
  · simp [Draft.report]
  · split <;> simp [Draft.report]

theorem Accepted.recorded_convert (w : Wiring) (a : Accepted) :
    Recorded (Converter.convert w a.kind a.id a.settings).findings := by
  rw [kind, Converter.convert_eq]
  exact .addAll (Converter.concern_losses w a.id a.settings).recorded (w.recorded_converted _ _ _)

theorem Config.yields_recorded (registry : Registry) (config : Config) :
    (config.convert registry).Yields fun d => Recorded d.findings := by
  intro ls
  have hlogging : Recorded (Draft.ofOption (Draft.block (.ofDotted "logging") "")
      config.service.telemetry.logs.logging?).findings :=
    Draft.recorded_ofOption fun _ => Draft.recorded_block _ _ _
  refine .addAll (.addAll (.addAll config.recorded_planFindings hlogging) ?_) ?_
  · refine recorded_flatMap fun e he => ?_
    obtain ⟨id, -, hid⟩ := List.mem_filterMap.1 he
    obtain ⟨body, -, rfl⟩ := Option.map_eq_some_iff.1 hid
    exact Fate.recorded_findings registry id body
  · exact Draft.recorded_concat (List.forall_mem_map.2 fun a _ => a.recorded_convert _)

end Collector

/-! ## Documents -/

theorem References.recorded_check (body : Body) : Recorded (check body) :=
  recorded_map fun _ _ => Diagnostic.isRecorded_warning _

theorem Format.recorded_formatBytes (bytes : ByteArray) : Recorded (formatBytes bytes).2 := by
  unfold formatBytes
  split
  · exact .empty
  · split <;> simp

namespace SourceConfig

theorem recorded_standalone (registry : Collector.Registry) (config : SourceConfig) :
    Recorded (config.standalone registry).findings := by
  cases config with
  | agent config => exact config.yields_recorded .empty
  | logShipper config => exact config.yields_recorded .empty
  | collector config => exact config.yields_recorded registry .empty

/-- The findings of a conversion are recorded. -/
theorem recorded_convert (registry : Collector.Registry) (config : SourceConfig) :
    Recorded (config.convert registry).findings :=
  .addAll (.addAll (config.recorded_standalone registry) (References.recorded_check _))
    (Format.recorded_formatBytes _)

end SourceConfig

/-! ## Sorted findings -/

/-- A list sorted by keys into the parts for each, these in the order of the keys. -/
theorem perm_flatMap_filter {α κ : Type} [DecidableEq κ] {f : α → κ} {keys : List κ}
    (hn : keys.Nodup) {as : List α} (h : ∀ a ∈ as, f a ∈ keys) :
    (keys.flatMap fun k => as.filter fun a => f a = k).Perm as := by
  induction keys generalizing as with
  | nil =>
    have hnil : as = [] := List.eq_nil_iff_forall_not_mem.2 fun a ha => absurd (h a ha) (by simp)
    rw [hnil]
    exact .nil
  | cons k keys ih =>
    obtain ⟨hk, hn⟩ := List.nodup_cons.1 hn
    let others := as.filter fun a => !decide (f a = k)
    have hothers : (keys.flatMap fun k' => as.filter fun a => f a = k') =
        keys.flatMap fun k' => others.filter fun a => f a = k' := by
      refine List.flatMap_congr fun k' hk' => ?_
      rw [List.filter_filter]
      refine List.filter_congr fun a _ => ?_
      by_cases ha : f a = k'
      · have hne : k' ≠ k := fun hkk => hk (hkk ▸ hk')
        simp [ha, hne]
      · simp [ha]
    have hmem : ∀ a ∈ others, f a ∈ keys := by
      intro a ha
      obtain ⟨ha, hne⟩ := List.mem_filter.1 ha
      exact (List.mem_cons.1 (h a ha)).resolve_left (by simpa using hne)
    rw [List.flatMap_cons, hothers]
    exact ((ih hn hmem).append_left _).trans (List.filter_append_perm _ as)

namespace Report

variable {ds : Diagnostics}

/-! ## Lines -/

theorem counted_eq (n : Nat) (noun : String) :
    counted n noun = toString n ++ " " ++ noun ++ if n = 1 then "" else "s" := by
  by_cases hn : n = 1
  · simp [counted, hn]
  · simp [counted, hn]

theorem lineFeed_not_mem_counted {noun : String} (h : '\n' ∉ noun.toList) (n : Nat) :
    '\n' ∉ (counted n noun).toList := by
  unfold counted
  split <;> simp [h, Text.lineFeed_not_mem_toDigits]

theorem lineFeed_not_mem_header (ds : Diagnostics) : '\n' ∉ (header ds).toList := by
  have herrors : '\n' ∉ (counted (ds.count .error) "error").toList :=
    lineFeed_not_mem_counted (by decide) _
  have hwarnings : '\n' ∉ (counted (ds.count .warning) "warning").toList :=
    lineFeed_not_mem_counted (by decide) _
  have hinfo : '\n' ∉ (toString (ds.count .info)).toList := by
    simp [Text.lineFeed_not_mem_toDigits]
  unfold header
  simp only [String.toList_append, List.mem_append, not_or]
  exact ⟨⟨⟨⟨⟨⟨by decide, herrors⟩, by decide⟩, hwarnings⟩, by decide⟩, hinfo⟩, by decide⟩

theorem lineFeed_not_mem_shown {d : Diagnostic} (h : '\n' ∉ d.message.toList) :
    '\n' ∉ d.shown.toList := by
  have hname : '\n' ∉ d.severity.name.toList := by cases d.severity <;> decide
  simp [Diagnostic.shown, hname, h]

/-- The line of a finding. -/
def entry (d : Diagnostic) : String := "  " ++ d.shown

theorem lineFeed_not_mem_entry {d : Diagnostic} (h : '\n' ∉ d.message.toList) :
    '\n' ∉ (entry d).toList := by
  simp [entry, lineFeed_not_mem_shown h]

/-- The lines for a severity that occurs open with an empty one and a title. -/
theorem sectionLines_eq (ds : Diagnostics) (severity : Severity) :
    sectionLines ds severity =
      if ds.only severity = [] then []
      else "" :: (title severity ++ ":") :: (ds.only severity).map entry := by
  unfold sectionLines
  split
  · rename_i hnil
    rw [if_pos hnil]
  · rename_i hne
    rw [if_neg hne]
    rfl

theorem lineFeed_not_mem_sectionLines (h : ∀ d ∈ ds, '\n' ∉ d.message.toList)
    (severity : Severity) : ∀ line ∈ sectionLines ds severity, '\n' ∉ line.toList := by
  have htitle : '\n' ∉ (title severity ++ ":").toList := by cases severity <;> decide
  rw [sectionLines_eq]
  split
  · simp
  · refine List.forall_mem_cons.2 ⟨by decide, List.forall_mem_cons.2 ⟨htitle, ?_⟩⟩
    exact List.forall_mem_map.2 fun d hd => lineFeed_not_mem_entry (h d (List.mem_filter.1 hd).1)

/-- A report on findings with messages of one line is its lines. -/
theorem hasLines_render (h : ∀ d ∈ ds, '\n' ∉ d.message.toList) :
    Text.HasLines (render ds).toList ((lines ds).map String.toList) := by
  refine ⟨?_, List.forall_mem_map.2 (List.forall_mem_cons.2 ⟨lineFeed_not_mem_header ds, ?_⟩)⟩
  · rw [render, String.toList_join, List.flatMap_map, List.flatMap_map]
    exact List.flatMap_congr fun line _ => by simp
  · intro line hline
    obtain ⟨severity, -, hline⟩ := List.mem_flatMap.1 hline
    exact lineFeed_not_mem_sectionLines h severity line hline

/-! ## Entries -/

/-- Whether a line is indented. -/
def isIndented (line : String) : Bool := line.toList.take 2 = [' ', ' ']

theorem isIndented_append {s : String} (h : 2 ≤ s.toList.length) (rest : String) :
    isIndented (s ++ rest) = isIndented s := by
  rw [isIndented, String.toList_append, List.take_append_of_le_length h, isIndented]

theorem filter_isIndented_sectionLines (ds : Diagnostics) (severity : Severity) :
    (sectionLines ds severity).filter isIndented = (ds.only severity).map entry := by
  have htitle : isIndented (title severity ++ ":") = false := by cases severity <;> decide
  have hentries : ∀ line ∈ (ds.only severity).map entry, isIndented line = true :=
    List.forall_mem_map.2 fun d _ => by simp [isIndented, entry]
  rw [sectionLines_eq]
  split
  · rename_i hnil
    rw [hnil]
    rfl
  · rw [List.filter_cons_of_neg (by decide), List.filter_cons_of_neg (by simp [htitle]),
      List.filter_eq_self.2 hentries]

/-- The indented lines of a report are those of its findings, each once. -/
theorem perm_entries (ds : Diagnostics) :
    ((lines ds).filter isIndented).Perm (ds.map entry) := by
  have hheader : isIndented (header ds) = false := by
    unfold header
    simp only [String.append_assoc]
    rw [isIndented_append (by decide)]
    decide
  have hsorted : ([Severity.error, .warning, .info].flatMap fun severity =>
      ds.filter fun d => d.severity = severity).Perm ds :=
    perm_flatMap_filter (by decide) fun d _ => by cases d.severity <;> decide
  rw [lines, List.filter_cons_of_neg (by simp [hheader]), List.filter_flatMap]
  simp only [filter_isIndented_sectionLines]
  rw [← List.map_flatMap]
  exact hsorted.map entry

/-! ## Reports -/

/-- The findings of every conversion are recorded. A recorded finding has a message without a line
feed, and such a message is kept when it is recorded. The report on recorded findings is lines: how
many errors, warnings and infos there are, and for each of them in this order, if there is any, an
empty line, a title, and the findings in the order in which they were recorded; so every finding has
one line. -/
theorem render_recorded :
    (∀ (registry : Collector.Registry) (config : SourceConfig),
      Diagnostics.Recorded (config.convert registry).findings) ∧
    (∀ (severity : Severity) (message : String), '\n' ∉ message.toList →
      Diagnostic.of severity message = ⟨severity, message⟩) ∧
    ∀ ds : Diagnostics, ds.Recorded →
      (∀ d ∈ ds, '\n' ∉ d.message.toList ∧
        ∀ severity, Diagnostic.of severity d.message = ⟨severity, d.message⟩) ∧
      ∃ lines : List String, Text.HasLines (render ds).toList (lines.map String.toList) ∧
        (let found (severity : Severity) : Diagnostics := ds.filter (·.severity = severity)
        let counted (n : Nat) (noun : String) : String :=
          toString n ++ " " ++ noun ++ if n = 1 then "" else "s"
        let header : String := "Conversion report: " ++
          counted (found .error).length "error" ++ ", " ++
          counted (found .warning).length "warning" ++ ", " ++
          toString (found .info).length ++ " info"
        lines = header ::
          [(Severity.error, "Errors:"), (.warning, "Warnings:"), (.info, "Info:")].flatMap
            fun (severity, title) =>
              if found severity = [] then []
              else "" :: title :: (found severity).map fun d => "  " ++ d.shown) ∧
        (lines.filter fun line => line.toList.take 2 = [' ', ' ']).Perm
          (ds.map fun d => "  " ++ d.shown) := by
  refine ⟨fun registry config => config.recorded_convert registry, fun severity message h => ?_,
    fun ds h => ?_⟩
  · rw [Diagnostic.of, oneLine_of_unbroken h]
  have hall := Diagnostics.recorded_iff.1 h
  have hone : ∀ d ∈ ds, '\n' ∉ d.message.toList := fun d hd => (hall d hd).lineFeed_not_mem
  refine ⟨fun d hd => ⟨hone d hd, (hall d hd).of_message⟩, lines ds, hasLines_render hone, ?_,
    perm_entries ds⟩
  unfold lines header
  rw [counted_eq, counted_eq]
  simp only [List.flatMap_cons, List.flatMap_nil, sectionLines_eq]
  rfl

/-- A finding on one line is kept, one on three lines is folded, and the report has one line for
each. -/
theorem render_recorded_folded :
    let ds : Diagnostics := [.info "one line", .error "three:\r\n\n  lines\nin one"]
    Diagnostic.of .info "one line" = ⟨.info, "one line"⟩ ∧
    Diagnostic.of .info "three: lines in one" = ⟨.info, "three: lines in one"⟩ ∧
    Text.HasLines (render ds).toList (["Conversion report: 1 error, 0 warnings, 1 info", "",
      "Errors:", "  (Error) three: lines in one", "", "Info:", "  (Info) one line"].map
        String.toList) := by
  intro ds
  obtain ⟨hlines, lines, htext, hexact, -⟩ := render_recorded.2.2 ds
    (.addAll (.add .empty .info _) (.add .empty .error _))
  refine ⟨render_recorded.2.1 .info _ (by decide), ?_, ?_⟩
  · exact (hlines ⟨.error, "three: lines in one"⟩ (by decide +kernel)).2 .info
  · have heval : lines = ["Conversion report: 1 error, 0 warnings, 1 info", "",
        "Errors:", "  (Error) three: lines in one", "", "Info:", "  (Info) one line"] := by
      rw [hexact]
      decide +kernel
    rwa [heval] at htext

end Report

end AgentConvert
