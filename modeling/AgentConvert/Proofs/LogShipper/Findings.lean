import AgentConvert.Proofs.References.LogShipper
import Mathlib.Data.List.Basic

/-!
# Findings of a log shipper

What converting a job has to say is a matter of the job alone (`ScrapeJob.findings`): neither its
label nor what stands around it comes up, and a job that fails says why and nothing else. So the
findings of a configuration are its own, then those of its jobs in their order
(`Config.yields_findings_convert`).
-/

namespace AgentConvert

/-! ## Jobs one behind the other -/

/-- The findings of a list of jobs are those of each. -/
theorem Labelling.yields_findings_mapM {α : Type} {f : α → Labelling Draft} {g : α → Diagnostics}
    {as : List α} (h : ∀ a ∈ as, (f a).Yields fun d => d.findings = g a) :
    (as.mapM f).Yields fun ds => ds.flatMap Draft.findings = as.flatMap g := by
  intro ls
  have hall := yields_forall₂_mapM h ls
  exact (flatMap_eq_of_forall₂ (hall.imp fun _ _ hd => hd.symm)).symm

namespace LogShipper

open Argument

namespace ScrapeJob

variable {around : Surroundings} {job : ScrapeJob} {label : String}

/-! ## Jobs -/

/-- What is said about each setting of the job that is not supported. -/
def unsupported (job : ScrapeJob) : Diagnostics :=
  job.others.keys.map fun key =>
    .error ("unsupported scrape config '" ++ key ++ "' in " ++ job.context ++ " was not converted")

/-- The servers that the sources of the job embed. -/
def servers (job : ScrapeJob) : List ServerSettings :=
  ((job.subscription.filter fun s => s.mode? = some .push).map Subscription.server).toList ++
  (job.herokuDrain.map PushReceiver.server).toList ++
  (job.pushApi.map PushReceiver.server).toList

/-- What converting the job has to say. -/
def findings (job : ScrapeJob) : Diagnostics :=
  match job.modeFault? with
  | some fault => [fault]
  | none =>
    RelabelRule.rejections job.context job.relabelRules ++
    Stage.rejections job.context job.stages ++
    job.servers.flatMap (·.embeddedFindings job.context)

theorem flatMap_filterMap_id {α β : Type} (os : List (Option α)) (f : α → List β) :
    (os.filterMap id).flatMap f = os.flatMap fun o => o.toList.flatMap f := by
  induction os with
  | nil => rfl
  | cons o os ih =>
    cases o with
    | none => simpa using ih
    | some a => simpa using ih

theorem findings_subscription (s : Option Subscription) (context : String) (outlet : Outlet) :
    (s.bind fun s => s.mode?.map fun mode => s.block mode context outlet).toList.flatMap
        SourceBlock.findings =
      ((s.filter fun s => s.mode? = some .push).map Subscription.server).toList.flatMap
        (·.embeddedFindings context) := by
  cases s with
  | none => rfl
  | some s =>
    rw [Option.bind_some, Option.filter_some]
    cases hmode : s.mode? with
    | none => rfl
    | some mode => cases mode <;> simp [Subscription.block]

theorem findings_receiver (r : Option PushReceiver) (kind : ComponentKind) (context : String)
    (outlet : Outlet) :
    (r.map fun r => r.block kind context outlet).toList.flatMap SourceBlock.findings =
      (r.map PushReceiver.server).toList.flatMap (·.embeddedFindings context) := by
  cases r <;> simp [PushReceiver.block]

theorem findings_silent {α : Type} {f : α → SourceBlock} (h : ∀ a, (f a).findings = [])
    (a : Option α) : (a.map f).toList.flatMap SourceBlock.findings = [] := by
  cases a <;> simp [h]

/-- Only the servers that sources embed have findings. -/
theorem findings_sources (around : Surroundings) (job : ScrapeJob) (label : String) :
    (job.sources around label).flatMap SourceBlock.findings =
      job.servers.flatMap (·.embeddedFindings job.context) := by
  rw [sources, flatMap_filterMap_id, servers]
  have hgelf := fun o => findings_silent (f := fun g : GelfListener => g.block o) fun _ => rfl
  have hsyslog := fun o => findings_silent (f := fun l : SyslogListener => l.block o) fun _ => rfl
  have hcloudflare := findings_silent (f := CloudflareSource.block) fun _ => rfl
  have heventLog := findings_silent (f := EventLogSource.block) fun _ => rfl
  simp only [List.flatMap_cons, List.flatMap_nil, List.flatMap_append, findings_subscription,
    findings_receiver, hgelf, hsyslog, hcloudflare, heventLog, List.append_nil, List.nil_append,
    List.append_assoc]

theorem findings_sourceDraft {s : SourceBlock} (h : s ∈ job.sources around label) :
    (job.sourceDraft around label s).findings = s.findings := by
  have hparts : AreParts (Special.Uses (job.references around label) job.holes) s.arguments :=
    areParts_sources h (fun path hpath => receivers_subset hpath) (fun hr => by simp [holes, hr])
      fun hp => by simp [holes, hp]
  rw [sourceDraft, Draft.findings_append, Draft.findings_report, Draft.findings_blockWith _ hparts,
    List.append_nil]

/-- Of what a job becomes only its rules, its stages and its sources have findings. -/
theorem findings_draft (around : Surroundings) (job : ScrapeJob) (label : String) :
    (job.draft around label).findings =
      RelabelRule.rejections job.context job.relabelRules ++
      Stage.rejections job.context job.stages ++
      job.servers.flatMap (·.embeddedFindings job.context) := by
  have hrules := Draft.findings_when job.relabelsTargets fun _ =>
    Draft.findings_block (areParts_targetRules [] job) Kind.discoveryRelabel label
  have hfiles : (Draft.when job.readsFiles (job.files around label)).findings = [] :=
    Draft.findings_when _ fun h => by
      rw [files, Draft.findings_append, Draft.findings_block (areParts_fileMatch h),
        Draft.findings_block (areParts_sourceFile h), List.append_nil]
  have hsources : (Draft.concat ((job.sources around label).map
      (job.sourceDraft around label))).findings =
      job.servers.flatMap (·.embeddedFindings job.context) := by
    rw [← findings_sources around job label, Draft.findings_concat, List.flatMap_map]
    exact List.flatMap_congr fun s hs => findings_sourceDraft hs
  have hpulled : (Draft.when job.relabelsPulled (job.pulledRules around label)).findings = [] :=
    Draft.findings_when _ fun _ => Draft.findings_block areParts_pulledRules _ _
  have hstages : (Draft.when (!job.acceptedStages.isEmpty) (job.processing around label)).findings =
      [] := Draft.findings_when _ fun _ => Draft.findings_block areParts_processing _ _
  simp only [draft, Draft.findings_append, Draft.findings_report, hfiles, hsources, hpulled,
    List.append_nil]
  rw [targetRules, hrules, hstages, List.append_nil, List.append_nil]

theorem yields_findings_convert (around : Surroundings) (job : ScrapeJob) :
    (job.convert around).Yields fun d => d.findings = job.findings := by
  intro ls
  unfold convert findings
  cases job.modeFault? with
  | some fault => rfl
  | none => exact findings_draft around job _

end ScrapeJob

/-! ## Configurations -/

namespace Config

variable {config : Config}

/-- The labels of the blocks that write to its clients. -/
def writeLabels (labelBase : String) (config : Config) : Labelling (List String) :=
  config.clients.mapM fun _ =>
    Labelling.fresh Kind.write.name (if labelBase = "" then "default" else labelBase)

/-- What its jobs share once these labels are handed out. -/
def around (labelBase : String) (config : Config) (labels : List String) : Surroundings where
  labelBase
  writers := labels.map fun label => Kind.write.exportPath label "receiver"
  syncPeriod := config.target.syncPeriod
  positionsFile := config.positions.filename

/-- The blocks that write to its clients. -/
def writes (config : Config) (labels : List String) : Draft :=
  .concat ((config.clients.zip labels).map fun e => writeDraft e.1 e.2)

/-- The steps of converting clients and jobs. -/
theorem convertJobs_eq (labelBase : String) (config : Config) :
    config.convertJobs labelBase = (do
      let labels ← config.writeLabels labelBase
      let jobs ← config.jobs.mapM (·.convert (config.around labelBase labels))
      return .report config.findings ++ .concat jobs ++ config.writes labels) :=
  rfl

/-- What of a configuration is not converted is what concerns it itself and, behind it, its
jobs. -/
theorem findings_eq (config : Config) :
    config.findings =
      findings { config with jobs := [] } ++ config.jobs.flatMap ScrapeJob.unsupported := by
  rw [findings, findings, List.flatMap_nil, List.append_nil]
  rfl

theorem findings_writes (config : Config) (labels : List String) :
    (config.writes labels).findings = [] := by
  rw [writes, Draft.findings_concat, List.flatMap_map, List.flatMap_eq_nil_iff]
  exact fun e _ => Draft.findings_block (areParts_write [] e.1) _ _

/-- The findings of a configuration are its own and, behind them, those of its jobs. -/
theorem yields_findings_convertJobs (labelBase : String) (config : Config) :
    (config.convertJobs labelBase).Yields fun d =>
      d.findings = config.findings ++ config.jobs.flatMap ScrapeJob.findings := by
  intro ls
  let labels := config.writeLabels labelBase ls
  have hjobs := Labelling.yields_findings_mapM (fun job (_ : job ∈ config.jobs) =>
    ScrapeJob.yields_findings_convert (config.around labelBase labels.1) job) labels.2
  rw [convertJobs_eq]
  show (Draft.report config.findings ++ Draft.concat _ ++ config.writes _).findings = _
  rw [Draft.findings_append, Draft.findings_append, Draft.findings_report, findings_writes,
    List.append_nil, Draft.findings_concat]
  exact congrArg _ hjobs

theorem findings_logging (server : ServerSettings) :
    (Draft.ofOption (Draft.block (.ofDotted "logging") "") server.logging?).findings = [] := by
  cases hlogging : server.logging? with
  | none => rfl
  | some args =>
    obtain ⟨fields, rfl, hfields⟩ : ∃ fields, args = .record fields ∧
        AreParts (Special.Uses [] []) fields := ServerSettings.logging?_fields hlogging
    exact Draft.findings_block hfields _ _

theorem yields_findings_convert (config : Config) :
    config.convert.Yields fun d => d.findings =
      config.server.agentFindings ++ config.findings ++
        config.jobs.flatMap ScrapeJob.findings := by
  refine Labelling.yields_bind (yields_findings_convertJobs "" config) fun d hd => ?_
  refine Labelling.yields_pure ?_
  rw [Draft.findings_append, Draft.findings_append, Draft.findings_report,
    findings_logging, hd, List.append_nil, List.append_assoc]

end Config

end LogShipper

end AgentConvert
