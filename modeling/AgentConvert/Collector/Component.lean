import AgentConvert.Collector.Exporter
import AgentConvert.Collector.Processor
import AgentConvert.Collector.Receiver
import AgentConvert.Component

/-!
# Components of collectors

The kinds of components that can be converted, and the settings of a component by its kind.
-/

namespace AgentConvert.Collector

/-- The kinds of components. -/
inductive SourceKind where
  | otlpReceiver
  | zipkinReceiver
  | batchProcessor
  | memoryLimiterProcessor
  | transformProcessor
  | attributesProcessor
  | otlpExporter
  | otlpHttpExporter
  | debugExporter
  deriving DecidableEq, Inhabited

namespace SourceKind

/-- The kinds in order. -/
def all : List SourceKind := [
  otlpReceiver, zipkinReceiver, batchProcessor, memoryLimiterProcessor, transformProcessor,
  attributesProcessor, otlpExporter, otlpHttpExporter, debugExporter]

/-- The kind of a type in a class. -/
def ofType? : InstanceClass → String → Option SourceKind
  | .receiver, "otlp" => some otlpReceiver
  | .receiver, "zipkin" => some zipkinReceiver
  | .processor, "batch" => some batchProcessor
  | .processor, "memory_limiter" => some memoryLimiterProcessor
  | .processor, "transform" => some transformProcessor
  | .processor, "attributes" => some attributesProcessor
  | .exporter, "otlp" => some otlpExporter
  | .exporter, "otlphttp" => some otlpHttpExporter
  | .exporter, "debug" => some debugExporter
  | .exporter, "logging" => some debugExporter
  | _, _ => none

/-- The name in messages. -/
def name : SourceKind → String
  | otlpReceiver => "otlp receiver"
  | zipkinReceiver => "zipkin receiver"
  | batchProcessor => "batch processor"
  | memoryLimiterProcessor => "memory_limiter processor"
  | transformProcessor => "transform processor"
  | attributesProcessor => "attributes processor"
  | otlpExporter => "otlp exporter"
  | otlpHttpExporter => "otlphttp exporter"
  | debugExporter => "debug exporter"

/-- The name in lists of kinds. -/
def identifier : SourceKind → String
  | otlpReceiver => "OtlpReceiver"
  | zipkinReceiver => "ZipkinReceiver"
  | batchProcessor => "BatchProcessor"
  | memoryLimiterProcessor => "MemoryLimiterProcessor"
  | transformProcessor => "TransformProcessor"
  | attributesProcessor => "AttributesProcessor"
  | otlpExporter => "OtlpExporter"
  | otlpHttpExporter => "OtlpHttpExporter"
  | debugExporter => "DebugExporter"

/-- The kind of block that a component becomes. -/
def component : SourceKind → ComponentKind
  | otlpReceiver => .ofDotted "otelcol.receiver.otlp"
  | zipkinReceiver => .ofDotted "otelcol.receiver.zipkin"
  | batchProcessor => .ofDotted "otelcol.processor.batch"
  | memoryLimiterProcessor => .ofDotted "otelcol.processor.memory_limiter"
  | transformProcessor => .ofDotted "otelcol.processor.transform"
  | attributesProcessor => .ofDotted "otelcol.processor.attributes"
  | otlpExporter => .ofDotted "otelcol.exporter.otlp"
  | otlpHttpExporter => .ofDotted "otelcol.exporter.otlphttp"
  | debugExporter => .ofDotted "otelcol.exporter.debug"

/-- Whether data flows into the component; it does not flow into receivers. -/
def takesInput : SourceKind → Bool
  | otlpReceiver | zipkinReceiver => false
  | _ => true

/-- The kind under which the block takes input. -/
def input? (kind : SourceKind) : Option ComponentKind :=
  if kind.takesInput then some kind.component else none

end SourceKind

/-- The settings of a component. -/
inductive ComponentSettings where
  | otlpReceiver (settings : OtlpReceiver)
  | zipkinReceiver (settings : ZipkinReceiver)
  | batchProcessor (settings : BatchProcessor)
  | memoryLimiterProcessor (settings : MemoryLimiter)
  | transformProcessor (settings : TransformProcessor)
  | attributesProcessor (settings : AttributesProcessor)
  | otlpExporter (settings : OtlpExporter)
  | otlpHttpExporter (settings : OtlpHttpExporter)
  | debugExporter (settings : DebugExporter)

namespace ComponentSettings

/-- The kind of the component. -/
def kind : ComponentSettings → SourceKind
  | otlpReceiver _ => .otlpReceiver
  | zipkinReceiver _ => .zipkinReceiver
  | batchProcessor _ => .batchProcessor
  | memoryLimiterProcessor _ => .memoryLimiterProcessor
  | transformProcessor _ => .transformProcessor
  | attributesProcessor _ => .attributesProcessor
  | otlpExporter _ => .otlpExporter
  | otlpHttpExporter _ => .otlpHttpExporter
  | debugExporter _ => .debugExporter

/-- How the body of a component is decoded. -/
def decoder : SourceKind → Decoder ComponentSettings
  | .otlpReceiver => fun v => otlpReceiver <$> OtlpReceiver.record.decode v
  | .zipkinReceiver => fun v => zipkinReceiver <$> ZipkinReceiver.record.decode v
  | .batchProcessor => fun v => batchProcessor <$> BatchProcessor.record.decode v
  | .memoryLimiterProcessor => fun v => memoryLimiterProcessor <$> MemoryLimiter.record.decode v
  | .transformProcessor => fun v => transformProcessor <$> TransformProcessor.record.decode v
  | .attributesProcessor => fun v => attributesProcessor <$> AttributesProcessor.record.decode v
  | .otlpExporter => fun v => otlpExporter <$> OtlpExporter.record.decode v
  | .otlpHttpExporter => fun v => otlpHttpExporter <$> OtlpHttpExporter.record.decode v
  | .debugExporter => fun v => debugExporter <$> DebugExporter.record.decode v

/-- The settings that a body holds. A body of null holds none. -/
def ofBody (kind : SourceKind) (body : Json) : Except DecodeError ComponentSettings :=
  let value := match body with
    | .null => Value.map []
    | body => body.toValue
  Decode.run .body (decoder kind) value

end ComponentSettings

end AgentConvert.Collector
