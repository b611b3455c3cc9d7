import AgentConvert.Draft
import AgentConvert.LogShipper.Config
import AgentConvert.LogShipper.Stage

/-!
# Jobs of a log shipper

A job becomes a chain of blocks that share its label: relabel rules, its sources, and the stages,
all on the way to the blocks that write to the clients. Rules reach the sources in three ways: the
targets of files pass through a `discovery.relabel`, sources that are pushed to apply its rules
themselves, and sources that pull forward through a `loki.relabel`.

A job whose subscription names no mode leaves nothing but an error (`ScrapeJob.convert`); not even
a label is handed out.

A configuration becomes the blocks of its jobs and, behind them, one block for each client. The
labels of the clients are handed out first, because the jobs forward to them.
-/

namespace AgentConvert.LogShipper

namespace Kind

def discoveryRelabel : ComponentKind := .ofDotted "discovery.relabel"
def fileMatch : ComponentKind := .ofDotted "local.file_match"
def sourceFile : ComponentKind := .ofDotted "loki.source.file"
def sourceHeroku : ComponentKind := .ofDotted "loki.source.heroku"
def sourceApi : ComponentKind := .ofDotted "loki.source.api"
def lokiRelabel : ComponentKind := .ofDotted "loki.relabel"
def process : ComponentKind := .ofDotted "loki.process"
def write : ComponentKind := .ofDotted "loki.write"

end Kind

/-- What the jobs of one configuration share. -/
structure Surroundings where
  /-- What the labels of the jobs begin with. -/
  labelBase : String
  /-- The receivers of the clients. -/
  writers : List String
  syncPeriod : Option Duration
  positionsFile : Option String

namespace ScrapeJob

/-- How messages name the job. -/
def context (job : ScrapeJob) : String := "job " ++ Text.quoted job.name

/-- Whether the job reads files. -/
def readsFiles (job : ScrapeJob) : Bool := !job.targetGroups.isEmpty

/-- Whether the job has a source that is pushed to. -/
def isPushedTo (job : ScrapeJob) : Bool :=
  job.subscription.isSome || job.gelf.isSome || job.herokuDrain.isSome || job.pushApi.isSome ||
    job.syslog.isSome

/-- Whether the job has a source that pulls. -/
def pulls (job : ScrapeJob) : Bool := job.cloudflare.isSome || job.eventLog.isSome

/-- The relabel rules that are accepted. -/
def rules (job : ScrapeJob) : List RelabelRule := RelabelRule.accepted job.relabelRules

/-- The stages that are accepted. -/
def acceptedStages (job : ScrapeJob) : List Stage := Stage.accepted job.stages

/-- Whether the rules apply to targets or to sources that are pushed to. -/
def relabelsTargets (job : ScrapeJob) : Bool :=
  !job.rules.isEmpty && (job.readsFiles || job.isPushedTo)

/-- Whether the rules apply to sources that pull. -/
def relabelsPulled (job : ScrapeJob) : Bool := !job.rules.isEmpty && job.pulls

/-- Where the entries of the job go: through its stages, if it has any, to the clients. -/
def receivers (around : Surroundings) (job : ScrapeJob) (label : String) : List String :=
  if job.acceptedStages.isEmpty then around.writers
  else [Kind.process.exportPath label "receiver"]

/-- The rules for the targets of files and for sources that are pushed to. -/
def targetRules (job : ScrapeJob) (label : String) : Draft :=
  .block Kind.discoveryRelabel label (.record (
    Field.always "targets" (.targets (TargetGroup.listed job.targetGroups)) ++
    Field.always "rule" (RelabelRule.blocks job.rules)))

/-- Where the paths of the files come from. -/
def pathSource (job : ScrapeJob) (label : String) : TargetSource :=
  if job.relabelsTargets then .exported (Kind.discoveryRelabel.exportPath label "output")
  else .listed (TargetGroup.listed job.targetGroups)

/-- The files of the job. -/
def files (around : Surroundings) (job : ScrapeJob) (label : String) : Draft :=
  .block Kind.fileMatch label (.record (
    Field.always "path_targets" (job.pathSource label).argument ++
    Field.optional "sync_period" .duration around.syncPeriod)) ++
  .block Kind.sourceFile label (.record (
    Field.always "targets" (.reference (Kind.fileMatch.exportPath label "targets")) ++
    Field.always "forward_to" (.references (job.receivers around label)) ++
    Field.optional "legacy_positions_file" .text around.positionsFile))

/-- The sources other than files. -/
def sources (around : Surroundings) (job : ScrapeJob) (label : String) : List SourceBlock :=
  let outlet : Outlet :=
    ⟨job.receivers around label, if job.relabelsTargets then some .relabelRules else none⟩
  [job.subscription.bind fun s => s.mode?.map fun mode => s.block mode job.context outlet,
    job.gelf.map fun g => g.block outlet,
    job.herokuDrain.map fun r => r.block Kind.sourceHeroku job.context outlet,
    job.pushApi.map fun r => r.block Kind.sourceApi job.context outlet,
    job.syslog.map fun l => l.block outlet,
    job.cloudflare.map fun c => c.block,
    job.eventLog.map fun e => e.block].filterMap id

/-- Where sources that pull forward their entries. -/
def pulledReceivers (around : Surroundings) (job : ScrapeJob) (label : String) : List String :=
  if job.relabelsPulled then [Kind.lokiRelabel.exportPath label "receiver"]
  else job.receivers around label

/-- What stands for the placeholders in the sources of the job. -/
def fillIn (around : Surroundings) (job : ScrapeJob) (label : String) : Special → Special.Answer
  | .placeholder .relabelRules =>
    .ok (.ofDotted (Kind.discoveryRelabel.exportPath label "rules"))
  | .placeholder .logsReceivers =>
    .ok (.array ((job.pulledReceivers around label).map Expr.ofDotted))
  | v => .error v

/-- A source as a part of the job. -/
def sourceDraft (around : Surroundings) (job : ScrapeJob) (label : String) (s : SourceBlock) :
    Draft :=
  .report s.findings ++
  .blockWith (overrideBy (job.fillIn around label)) s.kind label (.record s.arguments)

/-- The rules for sources that pull. -/
def pulledRules (around : Surroundings) (job : ScrapeJob) (label : String) : Draft :=
  .block Kind.lokiRelabel label (.record (
    Field.always "forward_to" (.references (job.receivers around label)) ++
    Field.always "rule" (RelabelRule.blocks job.rules)))

/-- The stages of the job. -/
def processing (around : Surroundings) (job : ScrapeJob) (label : String) : Draft :=
  .block Kind.process label (.record (
    Field.always "forward_to" (.references around.writers) ++
    Field.always "stage" (.list (job.acceptedStages.map Stage.block))))

/-- What the job becomes under its label. -/
def draft (around : Surroundings) (job : ScrapeJob) (label : String) : Draft :=
  .report (RelabelRule.rejections job.context job.relabelRules) ++
  .report (Stage.rejections job.context job.stages) ++
  .when job.relabelsTargets (job.targetRules label) ++
  .when job.readsFiles (job.files around label) ++
  .concat ((job.sources around label).map (job.sourceDraft around label)) ++
  .when job.relabelsPulled (job.pulledRules around label) ++
  .when (!job.acceptedStages.isEmpty) (job.processing around label)

/-- The finding for a subscription that names no mode. -/
def modeFault? (job : ScrapeJob) : Option Diagnostic :=
  job.subscription.bind fun s =>
    if s.mode?.isNone then some (.error (s.modeMessage ++ " in " ++ job.context)) else none

/-- Converts the job. -/
def convert (around : Surroundings) (job : ScrapeJob) : Labelling Draft :=
  match job.modeFault? with
  | some fault => return .report [fault]
  | none => do
    let label ← Labelling.fresh "" (labelOfParts [around.labelBase, job.name])
    return job.draft around label

end ScrapeJob

end AgentConvert.LogShipper

/-! ## Configurations -/

namespace AgentConvert.LogShipper.Config

/-- What of a configuration is not converted, the agent's own server apart. -/
def findings (config : Config) : Diagnostics :=
  Diagnostic.when config.clients.isEmpty
    (.warning "no clients are configured; converted log sources forward nowhere") ++
  Diagnostic.when config.limits.isSome
    (.warning "limits_config is not supported and was not converted") ++
  Diagnostic.when config.tracing.isSome
    (.warning "tracing is not supported and was not converted") ++
  Diagnostic.when config.positions.ignoreInvalidYaml
    (.warning "positions.ignore_invalid_yaml is not supported and was ignored") ++
  config.clients.zipIdx.flatMap (fun (client, i) =>
    client.http.findings ("clients[" ++ toString i ++ "]")) ++
  config.jobs.flatMap (fun job => job.others.keys.map fun key =>
    .error ("unsupported scrape config '" ++ key ++ "' in " ++ job.context ++
      " was not converted"))

/-- The block that writes to a client. -/
def writeDraft (client : Client) (label : String) : Draft :=
  .block Kind.write label (.record client.arguments)

/-- Converts the clients and jobs of a configuration; `labelBase` is what their labels begin
with. -/
def convertJobs (labelBase : String) (config : Config) : Labelling Draft := do
  let base := if labelBase = "" then "default" else labelBase
  let labels ← config.clients.mapM fun _ => Labelling.fresh Kind.write.name base
  let around : Surroundings := {
    labelBase
    writers := labels.map fun label => Kind.write.exportPath label "receiver"
    syncPeriod := config.target.syncPeriod
    positionsFile := config.positions.filename }
  let jobs ← config.jobs.mapM (·.convert around)
  let writes := (config.clients.zip labels).map fun (client, label) => writeDraft client label
  return .report config.findings ++ .concat jobs ++ .concat writes

/-- Converts a configuration that stands for itself. -/
def convert (config : Config) : Labelling Draft := do
  let jobs ← config.convertJobs ""
  return .report config.server.agentFindings ++
    .ofOption (Draft.block (.ofDotted "logging") "") config.server.logging? ++ jobs

end AgentConvert.LogShipper.Config
