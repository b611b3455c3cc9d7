import AgentConvert.Draft
import AgentConvert.Settings.Http
import AgentConvert.Settings.Relabel

/-!
# Remote write

Endpoints that samples are written to. All endpoints of one place make one block.
-/

namespace AgentConvert.Agent

/-- How samples wait to be sent. -/
structure Queue where
  capacity : Option UInt64 := none
  maxShards : Option UInt64 := none
  minShards : Option UInt64 := none
  maxSamplesPerSend : Option UInt64 := none
  batchSendDeadline : Option Duration := none
  minBackoff : Option Duration := none
  maxBackoff : Option Duration := none
  deriving Inhabited

namespace Queue

def record : Record Queue where
  name := "QueueConfig"
  initial := {}
  fields := [
    .of "capacity" (Decode.optional Decode.uint64) fun v s => { s with capacity := v },
    .of "max_shards" (Decode.optional Decode.uint64) fun v s => { s with maxShards := v },
    .of "min_shards" (Decode.optional Decode.uint64) fun v s => { s with minShards := v },
    .of "max_samples_per_send" (Decode.optional Decode.uint64) fun v s =>
      { s with maxSamplesPerSend := v },
    .of "batch_send_deadline" (Decode.optional Decode.duration) fun v s =>
      { s with batchSendDeadline := v },
    .of "min_backoff" (Decode.optional Decode.duration) fun v s => { s with minBackoff := v },
    .of "max_backoff" (Decode.optional Decode.duration) fun v s => { s with maxBackoff := v }]

/-- The nested block. -/
def block (q : Queue) : Argument :=
  .blockOf (Field.optional "capacity" .uint64 q.capacity ++
    Field.optional "max_shards" .uint64 q.maxShards ++
    Field.optional "min_shards" .uint64 q.minShards ++
    Field.optional "max_samples_per_send" .uint64 q.maxSamplesPerSend ++
    Field.optional "batch_send_deadline" .duration q.batchSendDeadline ++
    Field.optional "min_backoff" .duration q.minBackoff ++
    Field.optional "max_backoff" .duration q.maxBackoff)

end Queue

/-- An endpoint that samples are written to. -/
structure Endpoint where
  url : String := ""
  name : Option String := none
  remoteTimeout : Option Duration := none
  headers : Dictionary String := .empty
  sendExemplars : Option Bool := none
  sendNativeHistograms : Option Bool := none
  writeRelabelRules : List RelabelRule := []
  queue : Option Queue := none
  sigv4 : Option Value := none
  http : HttpClient := {}
  deriving Inhabited

namespace Endpoint

def record : OpenRecord Endpoint where
  name := "RemoteWriteConfig"
  initial := {}
  fields := [
    .of "url" Decode.text fun v s => { s with url := v },
    .of "name" (Decode.optional Decode.text) fun v s => { s with name := v },
    .of "remote_timeout" (Decode.optional Decode.duration) fun v s => { s with remoteTimeout := v },
    .of "headers" Decode.labels fun v s => { s with headers := v },
    .of "send_exemplars" (Decode.optional Decode.bool) fun v s => { s with sendExemplars := v },
    .of "send_native_histograms" (Decode.optional Decode.bool) fun v s =>
      { s with sendNativeHistograms := v },
    .of "write_relabel_configs" RelabelRule.list fun v s => { s with writeRelabelRules := v },
    .of "queue_config" (Decode.optional Queue.record.decode) fun v s => { s with queue := v },
    .of "sigv4" (Decode.optional Decode.kept) fun v s => { s with sigv4 := v }]
  inlined := HttpClient.fields.map (.inside fun change s => { s with http := change s.http })

/-- A list of endpoints. -/
def list : Decoder (List Endpoint) := Decode.list record.decode

/-- How messages name the endpoint. -/
def context (e : Endpoint) : String := "remote_write " ++ Text.quoted e.url

/-- What of the endpoint is not converted. -/
def findings (e : Endpoint) : Diagnostics :=
  Diagnostic.when e.sigv4.isSome
    (.warning (e.context ++ ": sigv4 is not supported and was ignored")) ++
  e.http.findings e.context

/-- The nested block of the endpoint. -/
def block (e : Endpoint) : Argument :=
  .blockOf (Field.optional "name" .text e.name ++
    Field.always "url" (.text e.url) ++
    Field.optional "remote_timeout" .duration e.remoteTimeout ++
    Field.unlessEmpty "headers" e.headers ++
    Field.optional "send_exemplars" .bool e.sendExemplars ++
    Field.optional "send_native_histograms" .bool e.sendNativeHistograms ++
    e.http.arguments ++
    Field.optional "queue_config" Queue.block e.queue ++
    Field.unlessNil "write_relabel_config" RelabelRule.blocks
      (RelabelRule.accepted e.writeRelabelRules))

end Endpoint

namespace RemoteWrite

def kind : ComponentKind := .ofDotted "prometheus.remote_write"

/-- What takes the samples of the block with this label. -/
def receiver (label : String) : String := kind.exportPath label "receiver"

/-- The block for endpoints. -/
def draft (label : String) (endpoints : List Endpoint) (externalLabels : Dictionary String) :
    Draft :=
  .report (endpoints.flatMap fun e => RelabelRule.rejections e.context e.writeRelabelRules) ++
  .block kind label (.record (Field.unlessEmpty "external_labels" externalLabels ++
    Field.unlessNil "endpoint" (fun es => .list (es.map Endpoint.block)) endpoints))

end RemoteWrite

end AgentConvert.Agent
