import AgentConvert.Agent.Integration
import AgentConvert.Agent.Logs
import AgentConvert.Agent.Scrape

/-!
# Converting agents

A configuration of an agent becomes the blocks of its metrics, its integrations and its logs, in
this order. An instance of the metrics section becomes its jobs and, behind them, the block that
writes what they scrape, if there is an endpoint.
-/

namespace AgentConvert.Agent

/-! ## Metrics -/

/-- Jobs that share where their samples are written. -/
structure MetricsInstance where
  name : String := ""
  jobs : List ScrapeJob := []
  remoteWrite : List Endpoint := []
  deriving Inhabited

def MetricsInstance.record : Record MetricsInstance where
  name := "InstanceConfig"
  initial := {}
  fields := [
    .of "name" Decode.text fun v s => { s with name := v },
    .of "scrape_configs" (Decode.list ScrapeJob.record.decode) fun v s => { s with jobs := v },
    .of "remote_write" Endpoint.list fun v s => { s with remoteWrite := v }]

/-- The metrics section. -/
structure MetricsSection where
  defaults : MetricsDefaults := {}
  walDirectory : Option String := none
  instances : List MetricsInstance := []
  deriving Inhabited

def MetricsSection.record : Record MetricsSection where
  name := "MetricsConfig"
  initial := {}
  fields := [
    .of "global" MetricsDefaults.record.decode fun v s => { s with defaults := v },
    .of "wal_directory" (Decode.optional Decode.text) fun v s => { s with walDirectory := v },
    .of "configs" (Decode.list MetricsInstance.record.decode) fun v s =>
      { s with instances := v }]

namespace MetricsInstance

/-- The endpoints of the instance: its own ones, or else those for all. -/
def endpoints (defaults : MetricsDefaults) (i : MetricsInstance) : List Endpoint :=
  if i.remoteWrite.isEmpty then defaults.remoteWrite else i.remoteWrite

/-- The label of the block that writes the samples, if there is an endpoint. -/
def writeLabel (defaults : MetricsDefaults) (i : MetricsInstance) : Labelling (Option String) :=
  if (i.endpoints defaults).isEmpty then return none
  else some <$> Labelling.fresh RemoteWrite.kind.name (if i.name = "" then "default" else i.name)

/-- Converts the instance. -/
def convert (defaults : MetricsDefaults) (i : MetricsInstance) : Labelling Draft := do
  let label ← i.writeLabel defaults
  let receivers := label.toList.map RemoteWrite.receiver
  let jobs ← i.jobs.mapM (·.convert i.name defaults receivers)
  return .concat jobs ++ .ofOption
    (fun l => RemoteWrite.draft l (i.endpoints defaults) defaults.externalLabels) label

end MetricsInstance

/-! ## Configurations -/

/-- A configuration of an agent. -/
structure Config where
  server : ServerSettings := {}
  metrics : MetricsSection := {}
  integrations : IntegrationsSection := {}
  logs : Option LogsSection := none
  traces : Option Value := none
  agentManagement : Option Value := none
  deriving Inhabited

namespace Config

def record : Record Config where
  name := "Config"
  initial := {}
  fields := [
    .of "server" ServerSettings.record.decode fun v s => { s with server := v },
    .of "metrics" MetricsSection.record.decode fun v s => { s with metrics := v },
    .of "integrations" IntegrationsSection.record.decode fun v s => { s with integrations := v },
    .of "logs" (Decode.optional LogsSection.record.decode) fun v s => { s with logs := v },
    .of "traces" (Decode.optional Decode.kept) fun v s => { s with traces := v },
    .of "agent_management" (Decode.optional Decode.kept) fun v s =>
      { s with agentManagement := v }]

/-- A finding for each setting of a job that is not supported; without a way to discover targets
the job would be another one, so that is an error. -/
def jobFindings (job : ScrapeJob) : Diagnostics :=
  job.others.keys.map fun key =>
    let message := "unsupported scrape config '" ++ key ++ "' in job " ++ Text.quoted job.name ++
      " was not converted"
    if key.endsWith "_sd_configs" then .error message else .warning message

/-- What of the configuration is not converted. -/
def findings (config : Config) : Diagnostics :=
  config.server.agentFindings ++
  Diagnostic.when config.metrics.walDirectory.isSome (.warning
    "metrics.wal_directory is not converted; set the storage path command-line flag instead") ++
  Diagnostic.when config.traces.isSome
    (.error "traces are not supported and were not converted") ++
  Diagnostic.when config.agentManagement.isSome
    (.error "agent_management is not supported and was not converted") ++
  config.integrations.others.keys.map (fun name =>
    .error ("unsupported integration '" ++ name ++ "' was not converted")) ++
  config.integrations.remoteWrite.flatMap Endpoint.findings ++
  config.metrics.defaults.remoteWrite.flatMap Endpoint.findings ++
  config.metrics.instances.flatMap fun i =>
    i.remoteWrite.flatMap Endpoint.findings ++ i.jobs.flatMap jobFindings

/-- Converts a configuration. -/
def convert (config : Config) : Labelling Draft := do
  let defaults := config.metrics.defaults
  let metrics ← config.metrics.instances.mapM (·.convert defaults)
  let integrations ← config.integrations.convert defaults
  let logs ← match config.logs with
    | some s => s.convert
    | none => pure .empty
  return .report config.findings ++
    .ofOption (Draft.block (.ofDotted "logging") "") config.server.logging? ++
    .concat metrics ++ integrations ++ logs

end Config

end AgentConvert.Agent
