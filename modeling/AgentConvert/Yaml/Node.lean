import AgentConvert.Decoding.Basic

/-!
# Nodes

What a document is made of. Anchors are numbered in the order in which their nodes start
(`Node.value?`): a name gets as its number how many other names there are before it. A name that is
given again gets a new number, which a further name may share; then the node that starts last is
the one with that number.
-/

namespace AgentConvert.Yaml

/-- What a node is marked with. -/
structure Marks where
  anchor : Option String := none
  tag : Option String := none
  deriving DecidableEq, Inhabited

/-- A node of a document. -/
inductive Node where
  /-- The node with this anchor. -/
  | reference (name : String)
  | scalar (marks : Marks) (style : ScalarStyle) (text : String)
  | list (marks : Marks) (items : List Node)
  | map (marks : Marks) (entries : List (Node × Node))
  deriving Inhabited

namespace Node

/-- The node where nothing is written. -/
def empty : Node := scalar {} .plain ""

mutual
/-- How many scalars and references there are, and starts and ends of lists and maps. -/
def size : Node → Nat
  | reference _ => 1
  | scalar .. => 1
  | list _ items => 2 + sizeOfItems items
  | map _ entries => 2 + sizeOfEntries entries

/-- The size of all items. -/
def sizeOfItems : List Node → Nat
  | [] => 0
  | n :: rest => n.size + sizeOfItems rest

/-- The size of all keys and values. -/
def sizeOfEntries : List (Node × Node) → Nat
  | [] => 0
  | (k, v) :: rest => k.size + v.size + sizeOfEntries rest
end

/-! ## Anchors -/

/-- The names of anchors and their numbers; of two entries with one name the first counts. -/
abbrev Names := List (String × Nat)

/-- How many names there are. -/
def countNames (names : Names) : Nat := (names.map Prod.fst).eraseDups.length

/-- Work that numbers anchors; a name that nothing has makes it fail. -/
abbrev Numbering := StateT Names Option

/-- The number of the anchor in some marks, if there is one. -/
def number (marks : Marks) : Numbering (Option Nat) := do
  match marks.anchor with
  | none => return none
  | some name =>
    let n := countNames (← get)
    modify ((name, n) :: ·)
    return some n

/-- A value under a tag, if it is one of the configuration's own. -/
def tagged (marks : Marks) (v : Value) : Value :=
  match marks.tag with
  | some tag => if Scalar.isOwnTag tag then .tagged tag v else v
  | none => v

/-- A value and the nodes in it that have a number, in the order in which they start. -/
abbrev Numbered := Value × List (Nat × Value)

/-- A value with its number, before what is numbered in it. -/
def numbered (n : Option Nat) (v : Value) (inner : List (Nat × Value)) : Numbered :=
  (v, (n.map fun n => (n, v)).toList ++ inner)

mutual
/-- The value of a node. -/
def value? : Node → Numbering Numbered
  | reference name => do
    match (← get).find? (·.1 == name) with
    | some e => return (.reference e.2, [])
    | none => failure
  | scalar marks style text => do
    return numbered (← number marks) (.scalar style marks.tag text) []
  | list marks items => do
    let n ← number marks
    let (vs, inner) ← valuesOfItems items
    return numbered n (tagged marks (.list vs)) inner
  | map marks entries => do
    let n ← number marks
    let (vs, inner) ← valuesOfEntries entries
    return numbered n (tagged marks (.map vs)) inner

/-- The values of items. -/
def valuesOfItems : List Node → Numbering (List Value × List (Nat × Value))
  | [] => return ([], [])
  | n :: rest => do
    let (v, a) ← n.value?
    let (vs, b) ← valuesOfItems rest
    return (v :: vs, a ++ b)

/-- The values of keys and of what they stand for. -/
def valuesOfEntries : List (Node × Node) → Numbering (List (Value × Value) × List (Nat × Value))
  | [] => return ([], [])
  | (k, v) :: rest => do
    let (k, a) ← k.value?
    let (v, b) ← v.value?
    let (vs, c) ← valuesOfEntries rest
    return ((k, v) :: vs, a ++ b ++ c)
end

end Node

/-- A document: its value, and what the references in it refer to. -/
structure Document where
  value : Value
  anchors : Anchors

/-- The document with this root. References may be followed a hundred times for each scalar,
reference, start and end in it. `none` if a reference names no anchor before it. -/
def Node.document? (root : Node) : Option Document :=
  (root.value?.run []).map fun ((value, nodes), _) =>
    ⟨value, nodes.reverse, 100 * root.size⟩

end AgentConvert.Yaml
