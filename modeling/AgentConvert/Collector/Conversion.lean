import AgentConvert.Collector.Converter
import AgentConvert.Collector.Plan

/-!
# Converting collectors

Every instance in a pipeline meets one fate (`Fate`): its type is not supported, its body cannot be
decoded, its settings are unusable, or it is accepted. The accepted instances get their labels
before any block is built, so references resolve in whatever order the pipelines name them, and
nothing refers to the other instances.
-/

namespace AgentConvert.Collector

/-- What becomes of an instance in a pipeline. -/
inductive Fate where
  /-- There is no converter for its type. -/
  | unsupported
  /-- Its body is not a body of its kind. -/
  | undecodable (error : DecodeError)
  /-- Its settings are unusable. -/
  | rejected (faults : Diagnostics)
  /-- It gets a block. -/
  | accepted (settings : ComponentSettings)

namespace Fate

/-- The fate of an instance with the given body. -/
def of (registry : Registry) (id : InstanceId) (body : Json) : Fate :=
  match (SourceKind.ofType? id.cls (ComponentId.ofText id.name).type).filter registry.contains with
  | none => unsupported
  | some kind =>
    match ComponentSettings.ofBody kind body with
    | .error e => undecodable e
    | .ok settings =>
      let faults := Converter.faults kind id settings
      if faults.hasErrors then rejected faults else accepted settings

/-- What is said about an instance before blocks are built. -/
def findings (id : InstanceId) : Fate → Diagnostics
  | unsupported => [.warning ("unsupported " ++ id.cls.name ++ " \"" ++
      (ComponentId.ofText id.name).type ++ "\" component was not converted")]
  | undecodable e => [.error ("failed to decode " ++ id.shown ++ ": " ++ e.message true)]
  | rejected faults => faults
  | accepted settings => Converter.faults settings.kind id settings

end Fate

/-- An instance that gets a block. -/
structure Accepted where
  id : InstanceId
  settings : ComponentSettings

namespace Accepted

/-- The kind of the instance. -/
def kind (a : Accepted) : SourceKind := a.settings.kind

/-- Hands out the label of the instance's block, among those of its kind. -/
def label (a : Accepted) : Labelling String :=
  Labelling.fresh a.kind.component.name (ComponentId.ofText a.id.name).labelBase

end Accepted

namespace Config

/-- The body of an instance that is declared. -/
def body? (config : Config) (id : InstanceId) : Option Json :=
  (config.components id.cls).get? id.name

/-- The instances in the pipelines with their fates, in order. -/
def fates (registry : Registry) (config : Config) : List (InstanceId × Fate) :=
  config.members.filterMap fun id => (config.body? id).map fun body => (id, .of registry id body)

/-- The instances that get a block, in order. -/
def accepted (registry : Registry) (config : Config) : List Accepted :=
  (config.fates registry).filterMap fun
    | (id, .accepted settings) => some ⟨id, settings⟩
    | _ => none

/-- The wiring when accepted instances have the given labels. -/
def wiring (config : Config) (labelled : List (Accepted × String)) : Wiring :=
  labelled.foldl (fun w (a, label) => w.register a.id ⟨a.kind.component, label, a.kind.input?⟩)
    ⟨config.graph, []⟩

/-- Converts a configuration. -/
def convert (registry : Registry) (config : Config) : Labelling Draft := do
  let accepted := config.accepted registry
  let labels ← accepted.mapM Accepted.label
  let w := config.wiring (accepted.zip labels)
  return .report config.planFindings ++
    .ofOption (Draft.block (.ofDotted "logging") "") config.service.telemetry.logs.logging? ++
    .report ((config.fates registry).flatMap fun (id, fate) => fate.findings id) ++
    .concat (accepted.map fun a => Converter.convert w a.kind a.id a.settings)

end Config

end AgentConvert.Collector
