import AgentConvert.Collector.Component
import AgentConvert.Collector.Graph
import AgentConvert.Component
import AgentConvert.Draft

/-!
# Converters

One converter for each kind of component. A converter says what makes settings unusable (`faults`)
and turns an instance that has a block into that block (`convert`). Settings of another kind are
refused by it.

The block refers to the blocks that other instances have become, from one to the next along the
pipeline graph (`Wiring`).
-/

namespace AgentConvert.Collector

/-! ## Wiring -/

/-- The block that an instance has become: its kind and label, and the kind under which it takes
input, if it takes any. -/
structure Registered where
  kind : ComponentKind
  label : String
  input : Option ComponentKind
  deriving DecidableEq, Inhabited

/-- A graph and the instances in it that have blocks; of two entries for one instance the first
counts. -/
structure Wiring where
  graph : Graph
  instances : List (InstanceId × Registered)
  deriving Inhabited

namespace Wiring

/-- Says which block an instance has become. -/
def register (w : Wiring) (id : InstanceId) (r : Registered) : Wiring :=
  { w with instances := (id, r) :: w.instances }

/-- The block of an instance. -/
def instance? (w : Wiring) (id : InstanceId) : Option Registered :=
  (w.instances.find? fun e => e.1 == id).map Prod.snd

@[simp]
theorem instance?_register (w : Wiring) (id id' : InstanceId) (r : Registered) :
    (w.register id r).instance? id' = if id = id' then some r else w.instance? id' := by
  by_cases h : id = id' <;> simp [register, instance?, h]

/-- References to the inputs of the blocks right behind `id` for a signal. Instances without a
block, and blocks without input, are left out. -/
def next (w : Wiring) (id : InstanceId) (signal : Signal) : List String :=
  (w.graph.downstream id signal).filterMap fun target =>
    (w.instance? target).bind fun r => r.input.map fun kind => kind.exportPath r.label "input"

end Wiring

/-! ## Converters -/

namespace Wiring

/-- The nested block that says where an instance sends each of some signals; signals that nothing
takes are left out. -/
def output (w : Wiring) (id : InstanceId) (signals : List Signal) : Argument :=
  let next (signal : Signal) : List String :=
    if signals.contains signal then w.next id signal else []
  .blockOf (Signal.all.flatMap fun signal =>
    Field.unlessNil signal.name .references (next signal))

/-- The block of an instance, reported as converted. -/
def converted (w : Wiring) (id : InstanceId) (kind : ComponentKind) (args : Fields) : Draft :=
  match w.instance? id with
  | none => .report [.error (id.shown ++ " was converted before it was registered")]
  | some r =>
    match Block.build noOverride kind r.label (.record args) with
    | .ok b =>
      ⟨[b], [.info ("Converted " ++ id.shown ++ " into " ++ kind.name ++ "." ++ r.label)]⟩
    | .error e => .report [.error (e.buildMessage kind r.label)]

end Wiring

namespace Converter

/-- The finding for settings of another kind. -/
def mismatch (kind : SourceKind) (id : InstanceId) : Diagnostics :=
  [.error (id.shown ++ " was dispatched to the " ++ kind.name ++
    " converter with a different configuration")]

/-- What makes settings unusable. Some kinds have nothing to check. -/
def faults (kind : SourceKind) (id : InstanceId) (settings : ComponentSettings) : Diagnostics :=
  match kind, settings with
  | .otlpReceiver, _ | .zipkinReceiver, _ | .debugExporter, _ => []
  | .batchProcessor, .batchProcessor s => s.faults id
  | .memoryLimiterProcessor, .memoryLimiterProcessor s => s.faults id
  | .transformProcessor, .transformProcessor s => s.faults id
  | .attributesProcessor, .attributesProcessor s => s.faults id
  | .otlpExporter, .otlpExporter s => s.faults id
  | .otlpHttpExporter, .otlpHttpExporter s => s.faults id
  | kind, _ => mismatch kind id

/-- The finding for data of a signal that a receiver of traces does not have. -/
def unwired (w : Wiring) (id : InstanceId) (signal : Signal) : Diagnostics :=
  Diagnostic.when (!(w.graph.downstream id signal).isEmpty) (.warning
    (id.shown ++ " only receives traces; its " ++ signal.name ++ " pipelines were not wired"))

/-- The block of an instance. -/
def convert (w : Wiring) (kind : SourceKind) (id : InstanceId) (settings : ComponentSettings) :
    Draft :=
  match kind, settings with
  | .otlpReceiver, .otlpReceiver s =>
    w.converted id kind.component (s.arguments (w.output id Signal.all))
  | .zipkinReceiver, .zipkinReceiver s =>
    .report (unwired w id .metrics ++ unwired w id .logs) ++
    w.converted id kind.component (s.arguments (w.output id [.traces]))
  | .batchProcessor, .batchProcessor s =>
    w.converted id kind.component (s.arguments (w.output id Signal.all))
  | .memoryLimiterProcessor, .memoryLimiterProcessor s =>
    w.converted id kind.component (s.arguments (w.output id Signal.all))
  | .transformProcessor, .transformProcessor s =>
    w.converted id kind.component (s.arguments (w.output id Signal.all))
  | .attributesProcessor, .attributesProcessor s =>
    .report (s.losses id) ++
    w.converted id kind.component (s.arguments (w.output id Signal.all))
  | .otlpExporter, .otlpExporter s =>
    .report (authLoss id s.auth) ++ w.converted id kind.component s.arguments
  | .otlpHttpExporter, .otlpHttpExporter s =>
    .report (authLoss id s.auth) ++ w.converted id kind.component s.arguments
  | .debugExporter, .debugExporter s =>
    .report (s.losses id) ++ w.converted id kind.component s.arguments
  | kind, _ => .report (mismatch kind id)

end Converter

/-! ## Registries -/

/-- The kinds that have a converter, in order. -/
structure Registry where
  kinds : List SourceKind
  deriving DecidableEq, Inhabited

namespace Registry

/-- No kind has a converter. -/
def empty : Registry := ⟨[]⟩

/-- Every kind has its converter. -/
def builtin : Registry := ⟨SourceKind.all⟩

/-- Whether a kind has a converter. -/
def contains (r : Registry) (kind : SourceKind) : Bool := r.kinds.contains kind

/-- How many converters there are. -/
def size (r : Registry) : Nat := r.kinds.length

/-- Whether there is no converter. -/
def isEmpty (r : Registry) : Bool := r.kinds.isEmpty

/-- The registry as it is shown. -/
def shown (r : Registry) : String :=
  "Registry \x7b kinds: [" ++ ", ".intercalate (r.kinds.map SourceKind.identifier) ++ "] \x7d"

end Registry

end AgentConvert.Collector
