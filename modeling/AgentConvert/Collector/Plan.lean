import AgentConvert.Collector.Config

/-!
# Plans

What the pipelines of a collector say: which instance hands its data to which, and which instances
there are, in the order in which the pipelines first name them. A pipeline whose signal is not
known is left out as a whole.
-/

namespace AgentConvert.Collector

/-- A pipeline that carries a known signal. -/
structure SignalPipeline where
  name : String
  signal : Signal
  stages : Pipeline

namespace SignalPipeline

/-- The names of the pipeline's components of a class. -/
def names (p : SignalPipeline) : InstanceClass → List String
  | .receiver => p.stages.receivers
  | .processor => p.stages.processors
  | .exporter => p.stages.exporters

/-- The instances of a class that are declared, in the pipeline's order. -/
def instances (config : Config) (p : SignalPipeline) (cls : InstanceClass) : List InstanceId :=
  ((p.names cls).filter (config.components cls).contains).map (⟨cls, ·⟩)

/-- A finding for each name of a class that is declared neither there nor as a connector. -/
def undeclared (config : Config) (p : SignalPipeline) (cls : InstanceClass) : Diagnostics :=
  ((p.names cls).filter fun name =>
    !(config.components cls).contains name && !config.connectors.contains name).map fun name =>
      .error ("pipeline \"" ++ p.name ++ "\" references " ++ cls.name ++ " \"" ++ name ++
        "\" which is not declared")

/-- The edges from `sources` through each processor in turn to all exporters. -/
def chain (signal : Signal) (sources : List InstanceId) :
    List InstanceId → List InstanceId → List Edge
  | processor :: rest, exporters =>
    sources.map (⟨·, signal, processor⟩) ++ chain signal [processor] rest exporters
  | [], exporters => sources.flatMap fun source => exporters.map (⟨source, signal, ·⟩)

/-- The edges of the pipeline. -/
def edges (config : Config) (p : SignalPipeline) : List Edge :=
  chain p.signal (p.instances config .receiver) (p.instances config .processor)
    (p.instances config .exporter)

/-- The instances of the pipeline, in order. -/
def members (config : Config) (p : SignalPipeline) : List InstanceId :=
  InstanceClass.all.flatMap (p.instances config)

end SignalPipeline

namespace Config

/-- The pipelines whose signals are known. -/
def signalPipelines (config : Config) : List SignalPipeline :=
  config.service.pipelines.entries.filterMap fun e =>
    (pipelineSignal e.1).toOption.map fun signal => ⟨e.1, signal, e.2⟩

/-- The graph of the pipelines. -/
def graph (config : Config) : Graph :=
  .ofEdges (config.signalPipelines.flatMap (·.edges config))

/-- The instances in the pipelines, in the order in which they are first named. -/
def members (config : Config) : List InstanceId :=
  (config.signalPipelines.flatMap (·.members config)).eraseDups

/-- What is wrong with a pipeline. -/
def pipelineFindings (config : Config) (name : String) (stages : Pipeline) : Diagnostics :=
  match pipelineSignal name with
  | .ok signal =>
    let p : SignalPipeline := ⟨name, signal, stages⟩
    InstanceClass.all.flatMap (p.undeclared config)
  | .error type =>
    [.error ("pipeline \"" ++ name ++ "\": " ++ Signal.unknownMessage type ++
      "; pipeline was not converted")]

/-- A finding for each component of a class that no pipeline names. -/
def unused (config : Config) (cls : InstanceClass) : Diagnostics :=
  ((config.components cls).keys.filter fun name => !config.members.contains ⟨cls, name⟩).map
    fun name => .warning (cls.name ++ " \"" ++ name ++
      "\" is not used in any pipeline and was not converted")

/-- A finding for each key of a section that is not supported. -/
def unsupportedSection (noun : String) (entries : KeyedList Json) : Diagnostics :=
  entries.keys.map fun name =>
    .warning (noun ++ " \"" ++ name ++ "\" is not supported and was not converted")

/-- What is wrong with the pipelines, and what is not in them. -/
def planFindings (config : Config) : Diagnostics :=
  config.service.pipelines.entries.flatMap (fun e => config.pipelineFindings e.1 e.2) ++
  InstanceClass.all.flatMap config.unused ++
  unsupportedSection "extension" config.extensions ++
  unsupportedSection "connector" config.connectors

end Config

end AgentConvert.Collector
