import AgentConvert.Collector.Graph
import AgentConvert.Decoding.Record
import AgentConvert.Diagnostic

/-!
# Exporters

The exporters that can be converted: their settings, what makes them unusable (`faults`), what is
left out (`losses`), and the arguments that they become.
-/

namespace AgentConvert.Collector

/-! ## Common settings -/

/-- How a client checks its server and shows who it is. -/
structure ClientTls where
  insecure : Option Bool := none
  insecureSkipVerify : Option Bool := none
  caFile : Option String := none
  certFile : Option String := none
  keyFile : Option String := none
  serverNameOverride : Option String := none
  deriving Inhabited

namespace ClientTls

def record : Record ClientTls where
  name := "ClientTls"
  initial := {}
  fields := [
    .of "insecure" (Decode.optional Decode.bool) fun v s => { s with insecure := v },
    .of "insecure_skip_verify" (Decode.optional Decode.bool) fun v s =>
      { s with insecureSkipVerify := v },
    .of "ca_file" (Decode.optional Decode.text) fun v s => { s with caFile := v },
    .of "cert_file" (Decode.optional Decode.text) fun v s => { s with certFile := v },
    .of "key_file" (Decode.optional Decode.text) fun v s => { s with keyFile := v },
    .of "server_name_override" (Decode.optional Decode.text) fun v s =>
      { s with serverNameOverride := v }]

/-- The nested block. -/
def block (tls : ClientTls) : Argument :=
  .blockOf (Field.optional "insecure" .bool tls.insecure ++
    Field.optional "insecure_skip_verify" .bool tls.insecureSkipVerify ++
    Field.optional "ca_file" .text tls.caFile ++
    Field.optional "cert_file" .text tls.certFile ++
    Field.optional "key_file" .text tls.keyFile ++
    Field.optional "server_name" .text tls.serverNameOverride)

end ClientTls

/-- How data waits to be sent. -/
structure SendingQueue where
  enabled : Option Bool := none
  numConsumers : Option UInt32 := none
  queueSize : Option UInt32 := none
  deriving Inhabited

namespace SendingQueue

def record : Record SendingQueue where
  name := "SendingQueue"
  initial := {}
  fields := [
    .of "enabled" (Decode.optional Decode.bool) fun v s => { s with enabled := v },
    .of "num_consumers" (Decode.optional Decode.uint32) fun v s => { s with numConsumers := v },
    .of "queue_size" (Decode.optional Decode.uint32) fun v s => { s with queueSize := v }]

/-- The nested block. -/
def block (q : SendingQueue) : Argument :=
  .blockOf (Field.optional "enabled" .bool q.enabled ++
    Field.optional "num_consumers" .uint32 q.numConsumers ++
    Field.optional "queue_size" .uint32 q.queueSize)

end SendingQueue

/-- How often sending is tried again. -/
structure RetryOnFailure where
  enabled : Option Bool := none
  initialInterval : Option Duration := none
  maxInterval : Option Duration := none
  maxElapsedTime : Option Duration := none
  multiplier : Option Binary64 := none
  randomizationFactor : Option Binary64 := none
  deriving Inhabited

namespace RetryOnFailure

def record : Record RetryOnFailure where
  name := "RetryOnFailure"
  initial := {}
  fields := [
    .of "enabled" (Decode.optional Decode.bool) fun v s => { s with enabled := v },
    .of "initial_interval" (Decode.optional Decode.duration) fun v s =>
      { s with initialInterval := v },
    .of "max_interval" (Decode.optional Decode.duration) fun v s => { s with maxInterval := v },
    .of "max_elapsed_time" (Decode.optional Decode.duration) fun v s =>
      { s with maxElapsedTime := v },
    .of "multiplier" (Decode.optional Decode.number) fun v s => { s with multiplier := v },
    .of "randomization_factor" (Decode.optional Decode.number) fun v s =>
      { s with randomizationFactor := v }]

/-- The nested block. -/
def block (r : RetryOnFailure) : Argument :=
  .blockOf (Field.optional "enabled" .bool r.enabled ++
    Field.optional "initial_interval" .duration r.initialInterval ++
    Field.optional "max_interval" .duration r.maxInterval ++
    Field.optional "max_elapsed_time" .duration r.maxElapsedTime ++
    Field.optional "multiplier" .float r.multiplier ++
    Field.optional "randomization_factor" .float r.randomizationFactor)

end RetryOnFailure

/-- The finding for authentication that is left out. -/
def authLoss (id : InstanceId) (auth : Option Json) : Diagnostics :=
  Diagnostic.when auth.isSome
    (.warning (id.shown ++ ": auth extensions are not supported and auth was dropped"))

/-! ## Exporters -/

/-- The exporter for the collector's own protocol. -/
structure OtlpExporter where
  endpoint : String := ""
  compression : Option String := none
  headers : Dictionary String := .empty
  tls : Option ClientTls := none
  timeout : Option Duration := none
  sendingQueue : Option SendingQueue := none
  retryOnFailure : Option RetryOnFailure := none
  balancerName : Option String := none
  auth : Option Json := none
  deriving Inhabited

namespace OtlpExporter

def record : Record OtlpExporter where
  name := "OtlpExporterConfig"
  initial := {}
  fields := [
    .of "endpoint" Decode.text fun v s => { s with endpoint := v },
    .of "compression" (Decode.optional Decode.text) fun v s => { s with compression := v },
    .of "headers" Decode.labels fun v s => { s with headers := v },
    .of "tls" (Decode.optional ClientTls.record.decode) fun v s => { s with tls := v },
    .of "timeout" (Decode.optional Decode.duration) fun v s => { s with timeout := v },
    .of "sending_queue" (Decode.optional SendingQueue.record.decode) fun v s =>
      { s with sendingQueue := v },
    .of "retry_on_failure" (Decode.optional RetryOnFailure.record.decode) fun v s =>
      { s with retryOnFailure := v },
    .of "balancer_name" (Decode.optional Decode.text) fun v s => { s with balancerName := v },
    .of "auth" (Decode.optional Decode.json) fun v s => { s with auth := v }]

/-- There has to be an endpoint. -/
def faults (id : InstanceId) (e : OtlpExporter) : Diagnostics :=
  Diagnostic.when (e.endpoint == "") (.error (id.shown ++ ": endpoint is required"))

def arguments (e : OtlpExporter) : Fields :=
  Field.optional "timeout" .duration e.timeout ++
  Field.always "client" (.blockOf (Field.always "endpoint" (.text e.endpoint) ++
    Field.optional "compression" .text e.compression ++
    Field.unlessEmpty "headers" e.headers ++
    Field.optional "balancer_name" .text e.balancerName ++
    Field.optional "tls" ClientTls.block e.tls)) ++
  Field.optional "sending_queue" SendingQueue.block e.sendingQueue ++
  Field.optional "retry_on_failure" RetryOnFailure.block e.retryOnFailure

end OtlpExporter

/-- The exporter for the collector's own protocol over a web connection. -/
structure OtlpHttpExporter where
  endpoint : Option String := none
  tracesEndpoint : Option String := none
  metricsEndpoint : Option String := none
  logsEndpoint : Option String := none
  compression : Option String := none
  headers : Dictionary String := .empty
  tls : Option ClientTls := none
  timeout : Option Duration := none
  sendingQueue : Option SendingQueue := none
  retryOnFailure : Option RetryOnFailure := none
  auth : Option Json := none
  deriving Inhabited

namespace OtlpHttpExporter

def record : Record OtlpHttpExporter where
  name := "OtlpHttpExporterConfig"
  initial := {}
  fields := [
    .of "endpoint" (Decode.optional Decode.text) fun v s => { s with endpoint := v },
    .of "traces_endpoint" (Decode.optional Decode.text) fun v s => { s with tracesEndpoint := v },
    .of "metrics_endpoint" (Decode.optional Decode.text) fun v s =>
      { s with metricsEndpoint := v },
    .of "logs_endpoint" (Decode.optional Decode.text) fun v s => { s with logsEndpoint := v },
    .of "compression" (Decode.optional Decode.text) fun v s => { s with compression := v },
    .of "headers" Decode.labels fun v s => { s with headers := v },
    .of "tls" (Decode.optional ClientTls.record.decode) fun v s => { s with tls := v },
    .of "timeout" (Decode.optional Decode.duration) fun v s => { s with timeout := v },
    .of "sending_queue" (Decode.optional SendingQueue.record.decode) fun v s =>
      { s with sendingQueue := v },
    .of "retry_on_failure" (Decode.optional RetryOnFailure.record.decode) fun v s =>
      { s with retryOnFailure := v },
    .of "auth" (Decode.optional Decode.json) fun v s => { s with auth := v }]

/-- There has to be an endpoint, for all signals or for one. -/
def faults (id : InstanceId) (e : OtlpHttpExporter) : Diagnostics :=
  Diagnostic.when (e.endpoint.isNone && e.tracesEndpoint.isNone && e.metricsEndpoint.isNone &&
      e.logsEndpoint.isNone)
    (.error (id.shown ++ ": endpoint or a per-signal endpoint is required"))

def arguments (e : OtlpHttpExporter) : Fields :=
  Field.always "client" (.blockOf (Field.optional "endpoint" .text e.endpoint ++
    Field.optional "compression" .text e.compression ++
    Field.unlessEmpty "headers" e.headers ++
    Field.optional "timeout" .duration e.timeout ++
    Field.optional "tls" ClientTls.block e.tls)) ++
  Field.optional "traces_endpoint" .text e.tracesEndpoint ++
  Field.optional "metrics_endpoint" .text e.metricsEndpoint ++
  Field.optional "logs_endpoint" .text e.logsEndpoint ++
  Field.optional "sending_queue" SendingQueue.block e.sendingQueue ++
  Field.optional "retry_on_failure" RetryOnFailure.block e.retryOnFailure

end OtlpHttpExporter

/-- The exporter that prints what it gets. -/
structure DebugExporter where
  verbosity : Option String := none
  /-- How much is printed, in the words of an older exporter. -/
  logLevel : Option String := none
  samplingInitial : Option UInt32 := none
  samplingThereafter : Option UInt32 := none
  deriving Inhabited

namespace DebugExporter

def record : Record DebugExporter where
  name := "DebugExporterConfig"
  initial := {}
  fields := [
    .of "verbosity" (Decode.optional Decode.text) fun v s => { s with verbosity := v },
    .of "loglevel" (Decode.optional Decode.text) fun v s => { s with logLevel := v },
    .of "sampling_initial" (Decode.optional Decode.uint32) fun v s =>
      { s with samplingInitial := v },
    .of "sampling_thereafter" (Decode.optional Decode.uint32) fun v s =>
      { s with samplingThereafter := v }]

/-- The verbosity of a level. -/
def verbosityOfLevel (level : String) : String :=
  if level.toList.map Char.toLower = "debug".toList then "detailed" else "normal"

/-- The finding for a level that stands for the verbosity. -/
def losses (id : InstanceId) (e : DebugExporter) : Diagnostics :=
  Diagnostic.when (e.verbosity.isNone && e.logLevel.isSome)
    (.warning (id.shown ++ ": loglevel is deprecated and was mapped to verbosity"))

def arguments (e : DebugExporter) : Fields :=
  Field.optional "verbosity" .text (e.verbosity.or (e.logLevel.map verbosityOfLevel)) ++
  Field.optional "sampling_initial" .uint32 e.samplingInitial ++
  Field.optional "sampling_thereafter" .uint32 e.samplingThereafter

end DebugExporter

end AgentConvert.Collector
