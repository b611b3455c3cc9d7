import AgentConvert.Text.Quoted

/-!
# The pipeline graph

Which instance of a component hands its data to which, by signal. The instances downstream of one
are listed in the order in which the edges were added, each once.
-/

namespace AgentConvert.Collector

/-- The classes of components. -/
inductive InstanceClass where
  | receiver
  | processor
  | exporter
  deriving DecidableEq, Inhabited

namespace InstanceClass

def all : List InstanceClass := [receiver, processor, exporter]

def name : InstanceClass → String
  | receiver => "receiver"
  | processor => "processor"
  | exporter => "exporter"

theorem mem_all (cls : InstanceClass) : cls ∈ all := by
  cases cls <;> decide

end InstanceClass

/-- An instance of a component, such as the receiver `otlp/edge`. -/
structure InstanceId where
  cls : InstanceClass
  name : String
  deriving DecidableEq, Inhabited

/-- `receiver "otlp/edge"`. -/
def InstanceId.shown (id : InstanceId) : String := id.cls.name ++ " " ++ Text.quoted id.name

/-- What a pipeline carries. -/
inductive Signal where
  | metrics
  | logs
  | traces
  deriving DecidableEq, Inhabited

namespace Signal

def all : List Signal := [metrics, logs, traces]

def name : Signal → String
  | metrics => "metrics"
  | logs => "logs"
  | traces => "traces"

/-- The signal with the given name. -/
def ofName? (s : String) : Option Signal := all.find? (·.name == s)

/-- The message for a name that no signal has. -/
def unknownMessage (s : String) : String := "unknown signal '" ++ s ++ "'"

end Signal

/-- An edge: data of a signal goes from one instance to another. -/
structure Edge where
  source : InstanceId
  signal : Signal
  target : InstanceId
  deriving DecidableEq, Inhabited

/-- The edges in the order in which they were first added. -/
structure Graph where
  edges : List Edge
  deriving Inhabited

namespace Graph

/-- The graph without edges. -/
def empty : Graph := ⟨[]⟩

/-- Adds an edge unless it is there. -/
def addEdge (g : Graph) (e : Edge) : Graph := if e ∈ g.edges then g else ⟨g.edges ++ [e]⟩

/-- The graph of `es`, each edge taken once. -/
def ofEdges (es : List Edge) : Graph := es.foldl addEdge empty

/-- The instances right behind `id` for a signal. -/
def downstream (g : Graph) (id : InstanceId) (signal : Signal) : List InstanceId :=
  g.edges.filterMap fun e => if e.source = id ∧ e.signal = signal then some e.target else none

/-- The signals for which something is right behind `id`. -/
def signalsFrom (g : Graph) (id : InstanceId) : List Signal :=
  Signal.all.filter fun s => !(g.downstream id s).isEmpty

end Graph

end AgentConvert.Collector
