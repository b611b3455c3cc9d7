import AgentConvert.Collector.Graph
import AgentConvert.Decoding.Record
import AgentConvert.Diagnostic
import AgentConvert.Text.Lowercase

/-!
# Configurations of collectors

Components by class, and the pipelines that connect them. The body of a component stays opaque
until its kind is known. Components and pipelines keep the order of the configuration.
-/

namespace AgentConvert.Collector

/-! ## Names -/

/-- The name of a component or a pipeline: a type, and what tells it from others of its type. -/
structure ComponentId where
  type : String
  name : Option String
  deriving DecidableEq, Inhabited

namespace ComponentId

/-- Reads `type` or `type/name`; the name is all that stands behind the first slash. -/
def ofText (s : String) : ComponentId :=
  let type := s.toList.takeWhile (· != '/')
  match s.toList.dropWhile (· != '/') with
  | _ :: name => ⟨String.ofList type, some (String.ofList name)⟩
  | [] => ⟨s, none⟩

/-- What the label of the component is made of. -/
def labelBase (id : ComponentId) : String :=
  match id.name with
  | some name => if name = "" then "default" else name
  | none => "default"

/-- `type` or `type/name`. -/
def shown (id : ComponentId) : String :=
  match id.name with
  | some name => id.type ++ "/" ++ name
  | none => id.type

end ComponentId

/-- The signal of the pipeline with the given name, or the name that no signal has. -/
def pipelineSignal (name : String) : Except String Signal :=
  let type := (ComponentId.ofText name).type
  match Signal.ofName? type with
  | some signal => .ok signal
  | none => .error type

/-! ## Sections -/

/-- A pipeline: the names of its components. -/
structure Pipeline where
  receivers : List String := []
  processors : List String := []
  exporters : List String := []
  deriving DecidableEq, Inhabited

def Pipeline.record : Record Pipeline where
  name := "PipelineConfig"
  initial := {}
  fields := [
    .of "receivers" Decode.texts fun v s => { s with receivers := v },
    .of "processors" Decode.texts fun v s => { s with processors := v },
    .of "exporters" Decode.texts fun v s => { s with exporters := v }]

/-- The logs of the collector itself. -/
structure TelemetryLogs where
  level : Option String := none
  encoding : Option String := none
  deriving DecidableEq, Inhabited

namespace TelemetryLogs

def record : Record TelemetryLogs where
  name := "TelemetryLogs"
  initial := {}
  fields := [
    .of "level" (Decode.optional Decode.text) fun v s => { s with level := v },
    .of "encoding" (Decode.optional Decode.text) fun v s => { s with encoding := v }]

/-- The arguments of the `logging` block; none when both settings are the usual ones. -/
def logging? (logs : TelemetryLogs) : Option Argument :=
  let level := (logs.level.map Text.lowercase).filter (· != "info")
  let format := logs.encoding.filter (· == "json")
  if level.isNone && format.isNone then none
  else some (.record (Field.optional "level" .text level ++ Field.optional "format" .text format))

end TelemetryLogs

/-- What the collector says about itself. -/
structure Telemetry where
  logs : TelemetryLogs := {}
  metrics : Option Json := none
  deriving Inhabited

def Telemetry.record : Record Telemetry where
  name := "TelemetryConfig"
  initial := {}
  fields := [
    .of "logs" TelemetryLogs.record.decode fun v s => { s with logs := v },
    .of "metrics" (Decode.optional Decode.json) fun v s => { s with metrics := v }]

/-- What of the configuration is in use. -/
structure Service where
  extensions : List String := []
  pipelines : KeyedList Pipeline := .empty
  telemetry : Telemetry := {}
  deriving Inhabited

def Service.record : Record Service where
  name := "ServiceConfig"
  initial := {}
  fields := [
    .of "extensions" Decode.texts fun v s => { s with extensions := v },
    .of "pipelines" (Decode.keyed Pipeline.record.decode) fun v s => { s with pipelines := v },
    .of "telemetry" Telemetry.record.decode fun v s => { s with telemetry := v }]

/-- A configuration of a collector. -/
structure Config where
  receivers : KeyedList Json := .empty
  processors : KeyedList Json := .empty
  exporters : KeyedList Json := .empty
  extensions : KeyedList Json := .empty
  connectors : KeyedList Json := .empty
  service : Service := {}
  deriving Inhabited

namespace Config

def record : Record Config where
  name := "Config"
  initial := {}
  fields := [
    .of "receivers" (Decode.keyed Decode.json) fun v s => { s with receivers := v },
    .of "processors" (Decode.keyed Decode.json) fun v s => { s with processors := v },
    .of "exporters" (Decode.keyed Decode.json) fun v s => { s with exporters := v },
    .of "extensions" (Decode.keyed Decode.json) fun v s => { s with extensions := v },
    .of "connectors" (Decode.keyed Decode.json) fun v s => { s with connectors := v },
    .of "service" Service.record.decode fun v s => { s with service := v }]

/-- The components of a class. -/
def components (config : Config) : InstanceClass → KeyedList Json
  | .receiver => config.receivers
  | .processor => config.processors
  | .exporter => config.exporters

end Config

end AgentConvert.Collector
