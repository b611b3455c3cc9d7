import AgentConvert.Agent.Conversion
import AgentConvert.Collector.Conversion
import AgentConvert.LogShipper.Job

/-!
# Source configurations

The formats that can be converted, and the configurations written in them. The format is always
chosen by the caller.
-/

namespace AgentConvert

/-- The format of a configuration. -/
inductive SourceFormat where
  | agent
  | logShipper
  | collector
  deriving DecidableEq, Inhabited

namespace SourceFormat

/-- The formats in order. -/
def all : List SourceFormat := [agent, logShipper, collector]

def name : SourceFormat → String
  | agent => "static"
  | logShipper => "promtail"
  | collector => "otelcol"

/-- The format with this name. -/
def ofName? (s : String) : Option SourceFormat := all.find? (·.name == s)

/-- What is said about a name that no format has. -/
def unknownMessage (s : String) : String :=
  "unknown source format '" ++ s ++ "', expected one of: " ++ ", ".intercalate (all.map name)

end SourceFormat

/-- A configuration in one of the formats. -/
inductive SourceConfig where
  | agent (config : Agent.Config)
  | logShipper (config : LogShipper.Config)
  | collector (config : Collector.Config)

namespace SourceConfig

def format : SourceConfig → SourceFormat
  | agent _ => .agent
  | logShipper _ => .logShipper
  | collector _ => .collector

/-- The configuration that says nothing. -/
def blank : SourceFormat → SourceConfig
  | .agent => agent {}
  | .logShipper => logShipper {}
  | .collector => collector {}

/-- How a configuration is decoded. -/
def decoder : SourceFormat → Decoder SourceConfig
  | .agent => fun v => agent <$> Agent.Config.record.decode v
  | .logShipper => fun v => logShipper <$> LogShipper.Config.record.decode v
  | .collector => fun v => collector <$> Collector.Config.record.decode v

/-- The configuration that a value is. -/
def ofValue (format : SourceFormat) (v : Value) : Except DecodeError SourceConfig :=
  Decode.run .sections (decoder format) v

/-- The blocks and findings of a configuration; `registry` says which components of a collector
can be converted. -/
def draft (registry : Collector.Registry) : SourceConfig → Labelling Draft
  | agent config => config.convert
  | logShipper config => config.convert
  | collector config => config.convert registry

end SourceConfig

end AgentConvert
