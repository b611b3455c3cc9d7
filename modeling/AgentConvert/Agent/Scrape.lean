import AgentConvert.Agent.Discovery
import AgentConvert.Agent.RemoteWrite

/-!
# Scrape jobs

A job becomes the components that discover its targets, the rules for them, the scrape itself and
the rules for what was scraped. Targets pass from the first to the scrape, and samples from the
scrape to where they are written.
-/

namespace AgentConvert.Agent

/-! ## Settings -/

/-- What holds for all metrics unless a job says otherwise. -/
structure MetricsDefaults where
  scrapeInterval : Option Duration := none
  scrapeTimeout : Option Duration := none
  externalLabels : Dictionary String := .empty
  remoteWrite : List Endpoint := []
  deriving Inhabited

def MetricsDefaults.record : Record MetricsDefaults where
  name := "GlobalConfig"
  initial := {}
  fields := [
    .of "scrape_interval" (Decode.optional Decode.duration) fun v s =>
      { s with scrapeInterval := v },
    .of "scrape_timeout" (Decode.optional Decode.duration) fun v s => { s with scrapeTimeout := v },
    .of "external_labels" Decode.labels fun v s => { s with externalLabels := v },
    .of "remote_write" Endpoint.list fun v s => { s with remoteWrite := v }]

/-- A job that scrapes metrics. -/
structure ScrapeJob where
  name : String := ""
  honorLabels : Option Bool := none
  honorTimestamps : Option Bool := none
  params : Dictionary (List String) := .empty
  scrapeInterval : Option Duration := none
  scrapeTimeout : Option Duration := none
  metricsPath : Option String := none
  scheme : Option String := none
  targetGroups : List TargetGroup := []
  dns : List DnsDiscovery := []
  httpDiscovery : List HttpDiscovery := []
  file : List FileDiscovery := []
  consul : List ConsulDiscovery := []
  ovhcloud : List OvhcloudDiscovery := []
  relabelRules : List RelabelRule := []
  metricRelabelRules : List RelabelRule := []
  http : HttpClient := {}
  /-- Settings that are not supported. -/
  others : Dictionary Value := .empty
  deriving Inhabited

def ScrapeJob.record : OpenRecord ScrapeJob where
  name := "ScrapeConfig"
  initial := {}
  fields := [
    .of "job_name" Decode.text fun v s => { s with name := v },
    .of "honor_labels" (Decode.optional Decode.bool) fun v s => { s with honorLabels := v },
    .of "honor_timestamps" (Decode.optional Decode.bool) fun v s => { s with honorTimestamps := v },
    .of "params" (Decode.dictionary Decode.texts) fun v s => { s with params := v },
    .of "scrape_interval" (Decode.optional Decode.duration) fun v s =>
      { s with scrapeInterval := v },
    .of "scrape_timeout" (Decode.optional Decode.duration) fun v s => { s with scrapeTimeout := v },
    .of "metrics_path" (Decode.optional Decode.text) fun v s => { s with metricsPath := v },
    .of "scheme" (Decode.optional Decode.text) fun v s => { s with scheme := v },
    .of "static_configs" TargetGroup.list fun v s => { s with targetGroups := v },
    .of "dns_sd_configs" (Decode.list DnsDiscovery.record.decode) fun v s => { s with dns := v },
    .of "http_sd_configs" (Decode.list HttpDiscovery.record.decode) fun v s =>
      { s with httpDiscovery := v },
    .of "file_sd_configs" (Decode.list FileDiscovery.record.decode) fun v s =>
      { s with file := v },
    .of "consul_sd_configs" (Decode.list ConsulDiscovery.record.decode) fun v s =>
      { s with consul := v },
    .of "ovhcloud_sd_configs" (Decode.list OvhcloudDiscovery.record.decode) fun v s =>
      { s with ovhcloud := v },
    .of "relabel_configs" RelabelRule.list fun v s => { s with relabelRules := v },
    .of "metric_relabel_configs" RelabelRule.list fun v s => { s with metricRelabelRules := v }]
  inlined := HttpClient.fields.map (.inside fun change s => { s with http := change s.http })
  keep := some fun others s => { s with others := others }

/-! ## Scraping -/

namespace Scrape

def kind : ComponentKind := .ofDotted "prometheus.scrape"
def targetRelabel : ComponentKind := .ofDotted "discovery.relabel"
def metricRelabel : ComponentKind := .ofDotted "prometheus.relabel"

/-- Where the targets of a label come from, when rules apply to them. -/
def relabelled (label : String) (rules : List RelabelRule) (targets : TargetSource) :
    TargetSource :=
  if rules.isEmpty then targets else .exported (targetRelabel.exportPath label "output")

/-- The rules for targets. -/
def targetRules (label : String) (rules : List RelabelRule) (targets : TargetSource) : Draft :=
  .when (!rules.isEmpty) (.block targetRelabel label (.record (
    Field.always "targets" targets.argument ++ Field.always "rule" (RelabelRule.blocks rules))))

/-- Where samples of a label go, when rules apply to them. -/
def forwardTo (label : String) (rules : List RelabelRule) (receivers : List String) :
    List String :=
  if rules.isEmpty then receivers else [metricRelabel.exportPath label "receiver"]

/-- The rules for samples. -/
def metricRules (label : String) (rules : List RelabelRule) (receivers : List String) : Draft :=
  .when (!rules.isEmpty) (.block metricRelabel label (.record (
    Field.always "forward_to" (.references receivers) ++
    Field.always "rule" (RelabelRule.blocks rules))))

/-- The arguments that every scrape has. -/
def arguments (targets : TargetSource) (receivers : List String) (jobName : String)
    (settings : Fields) : Argument :=
  .record (Field.always "targets" targets.argument ++
    Field.always "forward_to" (.references receivers) ++
    Field.always "job_name" (.text jobName) ++ settings)

end Scrape

namespace ScrapeJob

/-- How messages name the job. -/
def context (job : ScrapeJob) : String := "scrape job " ++ Text.quoted job.name

/-- The component for the targets that the job lists, if it lists any. -/
def listedTargets (job : ScrapeJob) : List Discovery :=
  match TargetGroup.listed job.targetGroups with
  | [] => []
  | targets => [.listed targets]

/-- The components that discover the targets of the job, in order. -/
def discoveries (job : ScrapeJob) : List Discovery :=
  job.listedTargets ++ job.dns.map .dns ++ job.httpDiscovery.map (.http job.context) ++
    job.file.map .file ++ job.consul.map (.consul job.context) ++ job.ovhcloud.map .ovhcloud

/-- The settings of the scrape. -/
def settings (defaults : MetricsDefaults) (job : ScrapeJob) : Fields :=
  Field.optional "honor_labels" .bool job.honorLabels ++
  Field.optional "honor_timestamps" .bool job.honorTimestamps ++
  (if job.params.isEmpty then []
    else Field.always "params" (.record (job.params.entries.map fun e => (e.1, .texts e.2)))) ++
  Field.optional "scrape_interval" .duration (job.scrapeInterval.or defaults.scrapeInterval) ++
  Field.optional "scrape_timeout" .duration (job.scrapeTimeout.or defaults.scrapeTimeout) ++
  Field.optional "metrics_path" .text job.metricsPath ++
  Field.optional "scheme" .text job.scheme ++
  job.http.arguments

/-- Hands out the labels of the components that discover, each among those of its kind. -/
def labelDiscoveries (label : String) (ds : List Discovery) : Labelling (List String) :=
  ds.mapM fun d => Labelling.fresh d.kind.name label

/-- What the job becomes, given its label and those of the components that discover. -/
def draft (defaults : MetricsDefaults) (receivers : List String) (job : ScrapeJob)
    (label : String) (discoveryLabels : List String) : Draft :=
  let found := job.discoveries.zip discoveryLabels
  let targets := TargetSource.ofExports (found.map fun (d, l) => d.kind.exportPath l "targets")
  let rules := RelabelRule.accepted job.relabelRules
  let metricRules := RelabelRule.accepted job.metricRelabelRules
  .report (job.http.findings job.context) ++
  .concat (found.map fun (d, l) => .report d.findings ++ .block d.kind l (.record d.arguments)) ++
  .report (RelabelRule.rejections job.context job.relabelRules) ++
  Scrape.targetRules label rules targets ++
  .report (RelabelRule.rejections job.context job.metricRelabelRules) ++
  .block Scrape.kind label (Scrape.arguments (Scrape.relabelled label rules targets)
    (Scrape.forwardTo label metricRules receivers) job.name (job.settings defaults)) ++
  Scrape.metricRules label metricRules receivers

/-- Converts the job; `labelBase` is what its label begins with. -/
def convert (labelBase : String) (defaults : MetricsDefaults) (receivers : List String)
    (job : ScrapeJob) : Labelling Draft := do
  let label ← Labelling.fresh "" (labelOfParts [labelBase, job.name])
  let discoveryLabels ← labelDiscoveries label job.discoveries
  return job.draft defaults receivers label discoveryLabels

end ScrapeJob

end AgentConvert.Agent
