import AgentConvert.LogShipper.Source
import AgentConvert.Settings.Relabel
import AgentConvert.Settings.Targets

/-!
# Configurations of log shippers

Clients that logs are pushed to, and jobs that scrape logs from files and other sources.
-/

namespace AgentConvert.LogShipper

/-! ## Clients -/

/-- How often a client tries again. -/
structure Backoff where
  minPeriod : Option Duration := none
  maxPeriod : Option Duration := none
  maxRetries : Option UInt32 := none
  deriving Inhabited

def Backoff.record : Record Backoff where
  name := "BackoffConfig"
  initial := {}
  fields := [
    .of "min_period" (Decode.optional Decode.duration) fun v s => { s with minPeriod := v },
    .of "max_period" (Decode.optional Decode.duration) fun v s => { s with maxPeriod := v },
    .of "max_retries" (Decode.optional Decode.uint32) fun v s => { s with maxRetries := v }]

/-- An endpoint that logs are pushed to. -/
structure Client where
  url : String := ""
  tenantId : Option String := none
  batchWait : Option Duration := none
  batchSize : Option UInt64 := none
  timeout : Option Duration := none
  headers : Dictionary String := .empty
  backoff : Backoff := {}
  externalLabels : Dictionary String := .empty
  http : HttpClient := {}
  deriving Inhabited

namespace Client

def record : OpenRecord Client where
  name := "ClientConfig"
  initial := {}
  fields := [
    .of "url" Decode.text fun v s => { s with url := v },
    .of "tenant_id" (Decode.optional Decode.text) fun v s => { s with tenantId := v },
    .of "batchwait" (Decode.optional Decode.duration) fun v s => { s with batchWait := v },
    .of "batchsize" (Decode.optional Decode.uint64) fun v s => { s with batchSize := v },
    .of "timeout" (Decode.optional Decode.duration) fun v s => { s with timeout := v },
    .of "headers" Decode.labels fun v s => { s with headers := v },
    .of "backoff_config" Backoff.record.decode fun v s => { s with backoff := v },
    .of "external_labels" Decode.labels fun v s => { s with externalLabels := v }]
  inlined := HttpClient.fields.map (.inside fun change s => { s with http := change s.http })

/-- The arguments of the block that writes to a client. -/
def arguments (c : Client) : Fields :=
  Field.always "endpoint" (.blockOf (Field.always "url" (.text c.url) ++
    Field.optional "tenant_id" .text c.tenantId ++
    Field.optional "batch_wait" .duration c.batchWait ++
    Field.optional "batch_size" .text (c.batchSize.map fun n => ByteSize.text n.toNat) ++
    Field.optional "remote_timeout" .duration c.timeout ++
    Field.unlessEmpty "headers" c.headers ++
    Field.optional "min_backoff_period" .duration c.backoff.minPeriod ++
    Field.optional "max_backoff_period" .duration c.backoff.maxPeriod ++
    Field.optional "max_backoff_retries" .uint32 c.backoff.maxRetries ++
    c.http.arguments)) ++
  Field.unlessEmpty "external_labels" c.externalLabels

end Client

/-! ## Jobs -/

/-- A job that scrapes logs. -/
structure ScrapeJob where
  name : String := ""
  /-- The pipeline stages, each decoded on its own. -/
  stages : List Value := []
  targetGroups : List TargetGroup := []
  relabelRules : List RelabelRule := []
  subscription : Option Subscription := none
  gelf : Option GelfListener := none
  herokuDrain : Option PushReceiver := none
  pushApi : Option PushReceiver := none
  syslog : Option SyslogListener := none
  cloudflare : Option CloudflareSource := none
  eventLog : Option EventLogSource := none
  /-- Sources and settings that are not supported. -/
  others : Dictionary Value := .empty
  deriving Inhabited

def ScrapeJob.record : OpenRecord ScrapeJob where
  name := "ScrapeConfig"
  initial := {}
  fields := [
    .of "job_name" Decode.text fun v s => { s with name := v },
    .of "pipeline_stages" (Decode.list Decode.kept) fun v s => { s with stages := v },
    .of "static_configs" TargetGroup.list fun v s => { s with targetGroups := v },
    .of "relabel_configs" RelabelRule.list fun v s => { s with relabelRules := v },
    .of "gcplog" (Decode.optional Subscription.record.decode) fun v s =>
      { s with subscription := v },
    .of "gelf" (Decode.optional GelfListener.record.decode) fun v s => { s with gelf := v },
    .of "heroku_drain" (Decode.optional (PushReceiver.record "HerokuDrainConfig").decode)
      fun v s => { s with herokuDrain := v },
    .of "loki_push_api" (Decode.optional (PushReceiver.record "PushApiConfig").decode)
      fun v s => { s with pushApi := v },
    .of "syslog" (Decode.optional SyslogListener.record.decode) fun v s => { s with syslog := v },
    .of "cloudflare" (Decode.optional CloudflareSource.record.decode) fun v s =>
      { s with cloudflare := v },
    .of "windows_events" (Decode.optional EventLogSource.record.decode) fun v s =>
      { s with eventLog := v }]
  keep := some fun others s => { s with others := others }

/-! ## Configurations -/

/-- Where the positions in files are kept. -/
structure Positions where
  filename : Option String := none
  syncPeriod : Option Duration := none
  ignoreInvalidYaml : Bool := false
  deriving Inhabited

def Positions.record : Record Positions where
  name := "PositionsConfig"
  initial := {}
  fields := [
    .of "filename" (Decode.optional Decode.text) fun v s => { s with filename := v },
    .of "sync_period" (Decode.optional Decode.duration) fun v s => { s with syncPeriod := v },
    .of "ignore_invalid_yaml" Decode.bool fun v s => { s with ignoreInvalidYaml := v }]

/-- How files are looked for. -/
structure TargetSettings where
  syncPeriod : Option Duration := none
  deriving Inhabited

def TargetSettings.record : Record TargetSettings where
  name := "TargetConfig"
  initial := {}
  fields := [
    .of "sync_period" (Decode.optional Decode.duration) fun v s => { s with syncPeriod := v }]

/-- A configuration of a log shipper. -/
structure Config where
  server : ServerSettings := {}
  clients : List Client := []
  positions : Positions := {}
  jobs : List ScrapeJob := []
  target : TargetSettings := {}
  limits : Option Value := none
  tracing : Option Value := none
  deriving Inhabited

def Config.record : Record Config where
  name := "Config"
  initial := {}
  fields := [
    .of "server" ServerSettings.record.decode fun v s => { s with server := v },
    .of "clients" (Decode.list Client.record.decode) fun v s => { s with clients := v },
    .of "positions" Positions.record.decode fun v s => { s with positions := v },
    .of "scrape_configs" (Decode.list ScrapeJob.record.decode) fun v s => { s with jobs := v },
    .of "target_config" TargetSettings.record.decode fun v s => { s with target := v },
    .of "limits_config" (Decode.optional Decode.kept) fun v s => { s with limits := v },
    .of "tracing" (Decode.optional Decode.kept) fun v s => { s with tracing := v }]

end AgentConvert.LogShipper
