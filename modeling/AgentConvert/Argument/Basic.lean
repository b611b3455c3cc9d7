import AgentConvert.Number.Shortest
import AgentConvert.Dictionary
import AgentConvert.Duration
import AgentConvert.Document.Basic
import AgentConvert.Secret

/-!
# Arguments

What a component is built from, before it has the shape of a block: scalars, lists, records and
maps, some of them marked. A mark says that a record is a nested block, or that a value belongs to
a category (secrets, patterns, targets, references, placeholders) that a front-end may render in
its own way.
-/

namespace AgentConvert

/-- A value that only the front-end can fill in. -/
inductive Placeholder where
  /-- Where a source of logs forwards its entries. -/
  | logsReceivers
  /-- The relabel rules for a source that is pushed to. -/
  | relabelRules
  /-- Where a component forwards its samples. -/
  | metricsReceivers
  deriving DecidableEq

namespace Placeholder

def all : List Placeholder := [logsReceivers, relabelRules, metricsReceivers]

def name : Placeholder → String
  | logsReceivers => "logs_receivers"
  | relabelRules => "relabel_rules"
  | metricsReceivers => "metrics_receivers"

/-- The placeholder with the given name. -/
def ofName? (s : String) : Option Placeholder := all.find? (·.name == s)

end Placeholder

/-- The categories of values that a front-end may render in its own way. -/
inductive Category where
  | secret
  | regex
  | targets
  | reference
  | placeholder
  deriving DecidableEq

def Category.name : Category → String
  | secret => "secret"
  | regex => "regex"
  | targets => "targets"
  | reference => "reference"
  | placeholder => "placeholder"

/-- The forms of values that documents have no place for. -/
inductive Unsupported where
  | nonFinite
  | rawBytes
  | tupleVariant
  | structVariant
  deriving DecidableEq

def Unsupported.name : Unsupported → String
  | nonFinite => "non-finite number"
  | rawBytes => "raw bytes"
  | tupleVariant => "tuple variant"
  | structVariant => "struct variant"

/-- An argument of a component. -/
inductive Argument where
  /-- An optional value that is not there. -/
  | absent
  | unit
  | bool (value : Bool)
  /-- A whole number of at most 64 bits. One of a type with 128 bits has no encoding: it is
  `failing`, with the message `i128 is not supported` or `u128 is not supported`. -/
  | int (value : Int)
  | float (value : Binary64)
  | text (value : String)
  /-- An optional value that is there, or a value under another type's name. -/
  | wrapped (value : Argument)
  | list (items : List Argument)
  | record (fields : List (String × Argument))
  | map (entries : List (Argument × Argument))
  /-- A map with a value that has no key. -/
  | keyless (value : Argument)
  /-- One of several alternatives; it gives its name to a nested block right inside. -/
  | variant (name : String) (value : Argument)
  /-- A record that is a nested block. -/
  | block (value : Argument)
  /-- A value of a category. -/
  | special (category : Category) (payload : Argument)
  /-- A call that joins lists of targets. -/
  | concat (lists : Argument)
  | unsupported (form : Unsupported)
  /-- A value that cannot be had, and why. -/
  | failing (message : String)
  deriving Inhabited

/-- Fields of a record. -/
abbrev Fields := List (String × Argument)

namespace Argument

def duration (d : Duration) : Argument := .text d.text

def texts (items : List String) : Argument := .list (items.map .text)

/-- A map from texts to texts. -/
def labels (d : Dictionary String) : Argument :=
  .record (d.entries.map fun e => (e.1, .text e.2))

def secret (s : Secret) : Argument := .special .secret (.text s.text)

def regex (pattern : String) : Argument := .special .regex (.text pattern)

/-- A reference by its dotted path. -/
def reference (path : String) : Argument := .special .reference (.text path)

def references (paths : List String) : Argument := .list (paths.map reference)

def placeholder (p : Placeholder) : Argument := .special .placeholder (.text p.name)

/-- A fixed-width number. -/
def uint16 (n : UInt16) : Argument := .int n.toNat

@[inherit_doc uint16]
def uint32 (n : UInt32) : Argument := .int n.toNat

@[inherit_doc uint16]
def uint64 (n : UInt64) : Argument := .int n.toNat

/-- A nested block with these fields. -/
def blockOf (fields : Fields) : Argument := .block (.record fields)

end Argument

/-! ## Fields -/

namespace Field

/-- A field that is always there. -/
def always (name : String) (value : Argument) : Fields := [(name, value)]

/-- A field for an optional value. -/
def optional {α : Type} (name : String) (f : α → Argument) (value : Option α) : Fields :=
  [(name, match value with
    | some a => .wrapped (f a)
    | none => .absent)]

/-- A field that is left out when its list is empty. -/
def unlessNil {α : Type} (name : String) (f : List α → Argument) (items : List α) : Fields :=
  if items.isEmpty then [] else [(name, f items)]

/-- A field that is left out when its map is empty. -/
def unlessEmpty (name : String) (d : Dictionary String) : Fields :=
  if d.isEmpty then [] else [(name, .labels d)]

/-- A switch that is left out when it is off. -/
def whenOn (name : String) (on : Bool) : Fields := if on then [(name, .bool true)] else []

end Field

end AgentConvert
