import AgentConvert.ByteSize
import AgentConvert.Collector.Graph
import AgentConvert.Decoding.Record
import AgentConvert.Diagnostic

/-!
# Processors

The processors that can be converted: their settings, what makes them unusable (`faults`), and the
arguments that they become. Every processor has a nested block that says where its data goes.
-/

namespace AgentConvert.Collector

/-! ## Batches -/

/-- Gathers data into batches. -/
structure BatchProcessor where
  timeout : Option Duration := none
  sendBatchSize : Option UInt32 := none
  sendBatchMaxSize : Option UInt32 := none
  metadataKeys : List String := []
  metadataCardinalityLimit : Option UInt32 := none
  deriving Inhabited

namespace BatchProcessor

def record : Record BatchProcessor where
  name := "BatchProcessorConfig"
  initial := {}
  fields := [
    .of "timeout" (Decode.optional Decode.duration) fun v s => { s with timeout := v },
    .of "send_batch_size" (Decode.optional Decode.uint32) fun v s => { s with sendBatchSize := v },
    .of "send_batch_max_size" (Decode.optional Decode.uint32) fun v s =>
      { s with sendBatchMaxSize := v },
    .of "metadata_keys" Decode.texts fun v s => { s with metadataKeys := v },
    .of "metadata_cardinality_limit" (Decode.optional Decode.uint32) fun v s =>
      { s with metadataCardinalityLimit := v }]

/-- The largest size must not be below the size; zero stands for no bound. -/
def faults (id : InstanceId) (p : BatchProcessor) : Diagnostics :=
  match p.sendBatchSize, p.sendBatchMaxSize with
  | some size, some max =>
    Diagnostic.when (max != 0 && max < size) (.error (id.shown ++ ": send_batch_max_size (" ++
      toString max.toNat ++ ") must be greater than or equal to send_batch_size (" ++
      toString size.toNat ++ ")"))
  | _, _ => []

def arguments (p : BatchProcessor) (output : Argument) : Fields :=
  Field.optional "timeout" .duration p.timeout ++
  Field.optional "send_batch_size" .uint32 p.sendBatchSize ++
  Field.optional "send_batch_max_size" .uint32 p.sendBatchMaxSize ++
  Field.unlessNil "metadata_keys" .texts p.metadataKeys ++
  Field.optional "metadata_cardinality_limit" .uint32 p.metadataCardinalityLimit ++
  Field.always "output" output

end BatchProcessor

/-! ## Memory limits -/

/-- Refuses data when there is little memory. -/
structure MemoryLimiter where
  checkInterval : Option Duration := none
  limitMib : Option UInt32 := none
  spikeLimitMib : Option UInt32 := none
  limitPercentage : Option UInt32 := none
  spikeLimitPercentage : Option UInt32 := none
  deriving Inhabited

namespace MemoryLimiter

def record : Record MemoryLimiter where
  name := "MemoryLimiterProcessorConfig"
  initial := {}
  fields := [
    .of "check_interval" (Decode.optional Decode.duration) fun v s => { s with checkInterval := v },
    .of "limit_mib" (Decode.optional Decode.uint32) fun v s => { s with limitMib := v },
    .of "spike_limit_mib" (Decode.optional Decode.uint32) fun v s => { s with spikeLimitMib := v },
    .of "limit_percentage" (Decode.optional Decode.uint32) fun v s =>
      { s with limitPercentage := v },
    .of "spike_limit_percentage" (Decode.optional Decode.uint32) fun v s =>
      { s with spikeLimitPercentage := v }]

/-- There has to be an interval, and a limit of either kind. -/
def faults (id : InstanceId) (p : MemoryLimiter) : Diagnostics :=
  Diagnostic.when ((p.checkInterval.map Duration.nanos).getD 0 == 0)
    (.error (id.shown ++ ": check_interval must be greater than zero")) ++
  Diagnostic.when (p.limitMib.isNone && p.limitPercentage.isNone)
    (.error (id.shown ++ ": one of limit_mib or limit_percentage must be set"))

/-- The text of a size in units of 1024 * 1024 bytes. -/
def mibText (n : UInt32) : String := ByteSize.text (n.toNat * (1024 * 1024))

def arguments (p : MemoryLimiter) (output : Argument) : Fields :=
  Field.optional "check_interval" .duration p.checkInterval ++
  Field.optional "limit" .text (p.limitMib.map mibText) ++
  Field.optional "spike_limit" .text (p.spikeLimitMib.map mibText) ++
  Field.optional "limit_percentage" .uint32 p.limitPercentage ++
  Field.optional "spike_limit_percentage" .uint32 p.spikeLimitPercentage ++
  Field.always "output" output

end MemoryLimiter

/-! ## Transformations -/

/-- Statements that apply in one context. -/
structure StatementGroup where
  context : String := ""
  statements : List String := []
  deriving Inhabited

namespace StatementGroup

def record : Record StatementGroup where
  name := "StatementGroup"
  initial := {}
  fields := [
    .of "context" Decode.text fun v s => { s with context := v },
    .of "statements" Decode.texts fun v s => { s with statements := v }]

/-- The nested block. -/
def block (g : StatementGroup) : Argument :=
  .blockOf (Field.always "context" (.text g.context) ++
    Field.always "statements" (.texts g.statements))

end StatementGroup

/-- Changes data by statements. -/
structure TransformProcessor where
  errorMode : Option String := none
  traceStatements : List StatementGroup := []
  metricStatements : List StatementGroup := []
  logStatements : List StatementGroup := []
  deriving Inhabited

namespace TransformProcessor

def record : Record TransformProcessor where
  name := "TransformProcessorConfig"
  initial := {}
  fields := [
    .of "error_mode" (Decode.optional Decode.text) fun v s => { s with errorMode := v },
    .of "trace_statements" (Decode.list StatementGroup.record.decode) fun v s =>
      { s with traceStatements := v },
    .of "metric_statements" (Decode.list StatementGroup.record.decode) fun v s =>
      { s with metricStatements := v },
    .of "log_statements" (Decode.list StatementGroup.record.decode) fun v s =>
      { s with logStatements := v }]

/-- What may be done about errors. -/
def errorModes : List String := ["ignore", "silent", "propagate"]

/-- The error mode has to be a known one. -/
def faults (id : InstanceId) (p : TransformProcessor) : Diagnostics :=
  (p.errorMode.filter fun mode => !errorModes.contains mode).toList.map fun mode =>
    .error (id.shown ++ ": unknown error_mode '" ++ mode ++ "'")

/-- Nested blocks for groups of statements. -/
def groupsField (name : String) (groups : List StatementGroup) : Fields :=
  Field.unlessNil name (fun gs => .list (gs.map StatementGroup.block)) groups

def arguments (p : TransformProcessor) (output : Argument) : Fields :=
  Field.optional "error_mode" .text p.errorMode ++
  groupsField "trace_statements" p.traceStatements ++
  groupsField "metric_statements" p.metricStatements ++
  groupsField "log_statements" p.logStatements ++
  Field.always "output" output

end TransformProcessor

/-! ## Attributes -/

/-- What is done to one attribute. -/
structure AttributeAction where
  key : String := ""
  action : String := ""
  value : Option Json := none
  pattern : Option String := none
  fromAttribute : Option String := none
  fromContext : Option String := none
  convertedType : Option String := none
  deriving Inhabited

namespace AttributeAction

def record : Record AttributeAction where
  name := "AttributeAction"
  initial := {}
  fields := [
    .of "key" Decode.text fun v s => { s with key := v },
    .of "action" Decode.text fun v s => { s with action := v },
    .of "value" (Decode.optional Decode.json) fun v s => { s with value := v },
    .of "pattern" (Decode.optional Decode.text) fun v s => { s with pattern := v },
    .of "from_attribute" (Decode.optional Decode.text) fun v s => { s with fromAttribute := v },
    .of "from_context" (Decode.optional Decode.text) fun v s => { s with fromContext := v },
    .of "converted_type" (Decode.optional Decode.text) fun v s => { s with convertedType := v }]

/-- The nested block. -/
def block (a : AttributeAction) : Argument :=
  .blockOf (Field.always "key" (.text a.key) ++
    Field.always "action" (.text a.action) ++
    Field.optional "value" Json.argument a.value ++
    Field.optional "pattern" .text a.pattern ++
    Field.optional "from_attribute" .text a.fromAttribute ++
    Field.optional "from_context" .text a.fromContext ++
    Field.optional "converted_type" .text a.convertedType)

end AttributeAction

/-- Changes attributes. -/
structure AttributesProcessor where
  actions : List AttributeAction := []
  includeFilter : Option Json := none
  excludeFilter : Option Json := none
  deriving Inhabited

namespace AttributesProcessor

def record : Record AttributesProcessor where
  name := "AttributesProcessorConfig"
  initial := {}
  fields := [
    .of "actions" (Decode.list AttributeAction.record.decode) fun v s => { s with actions := v },
    .of "include" (Decode.optional Decode.json) fun v s => { s with includeFilter := v },
    .of "exclude" (Decode.optional Decode.json) fun v s => { s with excludeFilter := v }]

/-- What may be done to an attribute. -/
def actionNames : List String :=
  ["insert", "update", "upsert", "delete", "hash", "extract", "convert"]

/-- Each action has to be a known one. -/
def faults (id : InstanceId) (p : AttributesProcessor) : Diagnostics :=
  (p.actions.filter fun a => !actionNames.contains a.action).map fun a =>
    .error (id.shown ++ ": unknown action '" ++ a.action ++ "' for key '" ++ a.key ++ "'")

/-- What is left out. -/
def losses (id : InstanceId) (p : AttributesProcessor) : Diagnostics :=
  let loss (name : String) : Diagnostic :=
    .warning (id.shown ++ ": the " ++ name ++ " filter is not supported and was ignored")
  Diagnostic.when p.includeFilter.isSome (loss "include") ++
  Diagnostic.when p.excludeFilter.isSome (loss "exclude")

def arguments (p : AttributesProcessor) (output : Argument) : Fields :=
  Field.unlessNil "action" (fun as => .list (as.map AttributeAction.block)) p.actions ++
  Field.always "output" output

end AttributesProcessor

end AgentConvert.Collector
