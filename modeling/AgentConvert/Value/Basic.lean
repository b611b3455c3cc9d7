import AgentConvert.Number.Binary64

/-!
# Values

A configuration before anything is read from it: scalars, lists and maps. The scalars of a text are
kept as they are written, because what they stand for depends on the place that reads them, and
references to nodes are kept as references.
-/

namespace AgentConvert

/-- How a scalar is written in a text. -/
inductive ScalarStyle where
  | plain
  | quoted
  /-- A block whose line breaks are kept. -/
  | literal
  /-- A block whose line breaks are folded. -/
  | folded
  deriving DecidableEq, Inhabited

/-- A value of a configuration. -/
inductive Value where
  | null
  | bool (value : Bool)
  | int (value : Int)
  | float (value : Binary64)
  | text (value : String)
  | list (items : List Value)
  /-- A map; its entries are in the order of the configuration, and keys may repeat. -/
  | map (entries : List (Value × Value))
  /-- A value under a tag of the configuration's own. -/
  | tagged (tag : String) (value : Value)
  /-- A scalar as a text has it. -/
  | scalar (style : ScalarStyle) (tag : Option String) (text : String)
  /-- The node with this number. -/
  | reference (anchor : Nat)
  deriving BEq, Inhabited

namespace Value

/-- The value without the tags on it. -/
def untagged : Value → Value
  | tagged _ v => v.untagged
  | v => v

mutual
/-- How deep lists and maps are nested. -/
def height : Value → Nat
  | list items => 1 + heightOfItems items
  | map entries => 1 + heightOfEntries entries
  | tagged _ v => v.height
  | _ => 0

/-- The greatest height of an item. -/
def heightOfItems : List Value → Nat
  | [] => 0
  | v :: rest => max v.height (heightOfItems rest)

/-- The greatest height of a key or a value. -/
def heightOfEntries : List (Value × Value) → Nat
  | [] => 0
  | (k, v) :: rest => max (max k.height v.height) (heightOfEntries rest)
end

/-- Whether some key stands twice among `entries`. -/
def hasRepeatedKey : List (Value × Value) → Bool
  | [] => false
  | (k, _) :: rest => rest.any (·.1 == k) || hasRepeatedKey rest

end Value

end AgentConvert
