import AgentConvert.Argument.Encode
import AgentConvert.Decoding.Record

/-!
# Targets

Targets that are listed in a configuration, and where components take their targets from.
-/

namespace AgentConvert

/-- Addresses that share labels. -/
structure TargetGroup where
  targets : List String := []
  labels : Dictionary String := .empty
  deriving Inhabited

namespace TargetGroup

def record : Record TargetGroup where
  name := "StaticConfig"
  initial := {}
  fields := [
    .of "targets" Decode.texts fun v s => { s with targets := v },
    .of "labels" Decode.labels fun v s => { s with labels := v }]

/-- A list of groups. -/
def list : Decoder (List TargetGroup) := Decode.list record.decode

/-- The label that holds the address of a target. -/
def addressLabel : String := "__address__"

/-- The target with this address: the address first, then the labels, of which none replaces the
address. -/
def target (address : String) (labels : Dictionary String) : Target :=
  (addressLabel, address) :: labels.entries.filter (·.1 ≠ addressLabel)

/-- The targets of groups in order. -/
def listed (groups : List TargetGroup) : List Target :=
  groups.flatMap fun g => g.targets.map fun address => target address g.labels

end TargetGroup

/-- A list of targets. -/
def Argument.targets (ts : List Target) : Argument :=
  .special .targets (.list (ts.map fun t => .record (t.map fun l => (l.1, .text l.2))))

/-- Where a component takes its targets from. -/
inductive TargetSource where
  | listed (targets : List Target)
  | exported (path : String)
  | joined (paths : List String)
  deriving DecidableEq

namespace TargetSource

/-- The source for what several components export: one is taken as it is, more are joined. -/
def ofExports : List String → TargetSource
  | [] => listed []
  | [path] => exported path
  | paths => joined paths

def argument : TargetSource → Argument
  | listed ts => .targets ts
  | exported path => .reference path
  | joined paths => .concat (.references paths)

end TargetSource

end AgentConvert
