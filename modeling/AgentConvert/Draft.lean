import AgentConvert.Argument.Encode
import AgentConvert.Diagnostic

/-!
# Drafts

The blocks that a piece of a conversion contributes to the document, with what it has to say. The
draft of a whole is its parts' drafts put one behind the other.
-/

namespace AgentConvert

/-- Blocks and findings, each in order. -/
structure Draft where
  blocks : List Block
  findings : Diagnostics
  deriving Inhabited

namespace Draft

/-- Neither blocks nor findings. -/
def empty : Draft := ⟨[], []⟩

/-- The parts of `a`, then those of `b`. -/
def append (a b : Draft) : Draft := ⟨a.blocks ++ b.blocks, a.findings ++ b.findings⟩

instance : Append Draft := ⟨append⟩

@[simp] theorem blocks_append (a b : Draft) : (a ++ b).blocks = a.blocks ++ b.blocks := rfl

@[simp] theorem findings_append (a b : Draft) : (a ++ b).findings = a.findings ++ b.findings := rfl

/-- Findings alone. -/
def report (ds : Diagnostics) : Draft := ⟨[], ds⟩

/-- The block built from `args`, or the reason why it cannot be built. There is no answer whether it
was built: the arguments of the front-ends always make a block (`Draft.isSound_blockWith`), so none
of them has to go on without one. -/
def blockWith (hook : Override Unit) (kind : ComponentKind) (label : String) (args : Argument) :
    Draft :=
  match Block.build hook kind label args with
  | .ok b => ⟨[b], []⟩
  | .error e => ⟨[], [.error (e.buildMessage kind label)]⟩

/-- The block built from `args` with the default rendering, or the reason why it cannot be. As with
`blockWith`, the answer whether it was built is left out. -/
def block (kind : ComponentKind) (label : String) (args : Argument) : Draft :=
  blockWith noOverride kind label args

/-- The drafts one behind the other. -/
def concat (ds : List Draft) : Draft := ⟨ds.flatMap blocks, ds.flatMap findings⟩

@[simp] theorem blocks_concat (ds : List Draft) : (concat ds).blocks = ds.flatMap blocks := rfl

@[simp] theorem findings_concat (ds : List Draft) : (concat ds).findings = ds.flatMap findings :=
  rfl

/-- The draft if a condition holds, and nothing otherwise. -/
def when (condition : Bool) (d : Draft) : Draft := if condition then d else empty

/-- The draft for an optional value. -/
def ofOption {α : Type} (f : α → Draft) : Option α → Draft
  | some a => f a
  | none => empty

/-- What a job leaves behind: its draft when it succeeds, its findings alone when it fails. -/
def ofJob : Except Diagnostics Draft → Draft
  | .ok d => d
  | .error ds => report ds

/-- The document that the blocks make. -/
def document (d : Draft) : Body := d.blocks.map Block.statement

end Draft

end AgentConvert
