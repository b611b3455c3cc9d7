import AgentConvert.Document.Basic

/-!
# Components

The kinds of blocks that make up a pipeline, such as `prometheus.scrape`, and references to what a
block exports.
-/

namespace AgentConvert

/-- The kind of a component, by its segments. -/
structure ComponentKind where
  segments : List String
  deriving DecidableEq, Inhabited

namespace ComponentKind

/-- The kind that a dotted name spells; empty segments are left out. -/
def ofDotted (s : String) : ComponentKind := ⟨(dotted s).filter (· ≠ "")⟩

/-- The dotted name. -/
def name (kind : ComponentKind) : String := dottedName kind.segments

/-- The dotted path of `field` as the block with this kind and label exports it. -/
def exportPath (kind : ComponentKind) (label field : String) : String :=
  kind.name ++ "." ++ label ++ "." ++ field

end ComponentKind

end AgentConvert
