import AgentConvert.Decoding.Error
import AgentConvert.Dictionary
import AgentConvert.KeyedList
import AgentConvert.Value.Json
import AgentConvert.Value.Scalar

/-!
# Decoding

Settings from values. Decoding follows references to nodes and counts them, and it bounds how deep
lists and maps may be nested; values that are not from a text have no references, and their own
height is the bound.

Where a value stands decides how strictly it is read (`Reading`). In a section, nothing stands for
an empty list, map or record. Where the settings of one record are written among those of another,
and in the body of a component, it does not, and a list may stand for a record, its items for the
fields in order.
-/

namespace AgentConvert

/-- How strictly values are read. -/
inductive Reading where
  /-- In a section of a configuration. -/
  | sections
  /-- Among the settings of another record. -/
  | inlined
  /-- In the body of a component. -/
  | body
  deriving DecidableEq

/-- What the references of a text refer to, and how many may be followed. -/
structure Anchors where
  nodes : List (Nat × Value)
  limit : Nat

/-- Where a value stands: how it is read, and how many levels of lists and maps may still come. -/
structure Place where
  reading : Reading
  depth : Nat
  anchors : Anchors

/-- Decoding, with the number of references that were followed. -/
abbrev Decode := ReaderT Place (StateT Nat (Except DecodeError))

/-- A way to decode a value. -/
abbrev Decoder (α : Type) := Value → Decode α

namespace Decode

variable {α β : Type}

/-- Decodes a value that stands at a place. -/
def runAt (place : Place) (d : Decoder α) (v : Value) : Except DecodeError α :=
  ((d v place).run 0).map Prod.fst

/-- Decodes a value that is not from a text. -/
def run (reading : Reading) (d : Decoder α) (v : Value) : Except DecodeError α :=
  runAt ⟨reading, v.height, ⟨[], 0⟩⟩ d v

/-- The node that a reference refers to; any other value is itself. -/
def follow : Decoder Value
  | .reference anchor => do
    let followed := (← get) + 1
    let anchors := (← read).anchors
    set followed
    if followed > anchors.limit then throw .unreadable
    match anchors.nodes.find? (·.1 == anchor) with
    | some node => return node.2
    | none => throw .unreadable
  | v => return v

/-- The value behind references and tags. -/
def bare : Decoder Value := fun v => return (← follow v).untagged

/-- Decodes what is in a list or a map. -/
def within (d : Decode α) : Decode α := do
  match (← read).depth with
  | 0 => throw .unreadable
  | depth + 1 => withReader ({ · with depth }) d

/-- Reads values as `reading` says. -/
def readAs (reading : Reading) (d : Decode α) : Decode α := withReader ({ · with reading }) d

/-- Whether nothing stands for an empty list, map or record. -/
def nullIsEmpty : Decode Bool := return (← read).reading == .sections

/-! ## Scalars -/

/-- A text. A scalar of a text is taken as it is written. -/
def text : Decoder String := fun v => do
  match ← bare v with
  | .text s | .scalar _ _ s => return s
  | v => throw (.wrongType v .text)

/-- Whether a scalar may stand for more than its text: a plain one may, and a literal one under
the tag for what is wanted. -/
def isOpen (style : ScalarStyle) (tag : Option String) (kind : String) : Bool :=
  style == .plain || style == .literal && tag == some (Scalar.commonTag kind)

/-- A truth value. -/
def bool : Decoder Bool := fun v => do
  match ← bare v with
  | .bool b => return b
  | .scalar style tag s =>
    match if isOpen style tag "bool" then Scalar.bool? s else none with
    | some b => return b
    | none => throw (.wrongType (.text s) .boolean)
  | v => throw (.wrongType v .boolean)

/-- A whole number from zero on of so many bits. -/
def unsigned (bits : Nat) : Decoder Nat := fun v => do
  match ← bare v with
  | .int n => inRange n
  | .scalar style tag s =>
    match if isOpen style tag "int" then Scalar.int? s else none with
    | some n => inRange n
    | none => throw (.wrongType (.text s) (.unsigned bits))
  | v => throw (.wrongType v (.unsigned bits))
where
  inRange (n : Int) : Decode Nat :=
    if 0 ≤ n ∧ n.toNat < 1 <<< bits then return n.toNat else throw (.outOfRange n (.unsigned bits))

def uint16 : Decoder UInt16 := fun v => return (← unsigned 16 v).toUInt16
def uint32 : Decoder UInt32 := fun v => return (← unsigned 32 v).toUInt32
def uint64 : Decoder UInt64 := fun v => return (← unsigned 64 v).toUInt64

/-- A number; a whole one is taken too. -/
def number : Decoder Binary64 := fun v => do
  match ← bare v with
  | .float x => return x
  | .int n => return .ofInt n
  | .scalar style tag s =>
    match if isOpen style tag "float" then Scalar.float? s else none with
    | some x => return x
    | none => throw (.wrongType (.text s) .number)
  | v => throw (.wrongType v .number)

/-- A length of time, written as a text. -/
def duration : Decoder Duration := fun v => do
  let s ← text v
  match Duration.read s with
  | .ok d => return d
  | .error fault => throw (.duration s fault)

/-- An optional value: nothing, or a plain scalar that says so, is none. -/
def optional (d : Decoder α) : Decoder (Option α) := fun v => do
  match ← follow v with
  | .null => return none
  | .scalar .plain tag s =>
    if tag == some (Scalar.commonTag "null") then
      if Scalar.isNull s then return none else throw .unreadable
    else if tag.isNone && (s == "" || Scalar.isNull s) then return none
    else return some (← d (.scalar .plain tag s))
  | v => return some (← d v)

/-! ## Lists and maps -/

/-- Whether a value stands for an empty list, map or record. -/
def isEmpty : Value → Decode Bool
  | .null => nullIsEmpty
  | .scalar .plain _ "" => return true
  | _ => return false

/-- A list. -/
def list (d : Decoder α) : Decoder (List α) := fun v => do
  match ← bare v with
  | .list items => within (items.mapM d)
  | v => if ← isEmpty v then return [] else throw (.wrongType v .list)

/-- A map from texts, its entries in order. -/
def entries (d : Decoder α) : Decoder (List (String × α)) := fun v => do
  match ← bare v with
  | .map entries => within (entries.mapM fun e => do return (← text e.1, ← d e.2))
  | v => if ← isEmpty v then return [] else throw (.wrongType v .map)

/-- A map from texts in ascending order of the keys; a later entry replaces an earlier one. -/
def dictionary (d : Decoder α) : Decoder (Dictionary α) := fun v =>
  return .ofList (← entries d v)

/-- A map from texts in the order in which the keys first stand; a later entry replaces the value of
an earlier one. -/
def keyed (d : Decoder α) : Decoder (KeyedList α) := fun v => return .ofList (← entries d v)

/-! ## Opaque values -/

/-- What an opaque value is for. -/
inductive Purpose where
  /-- It is looked at by its tags, and no map has a key twice. -/
  | kept
  /-- It is decoded later, once it is known what for. -/
  | buffered
  /-- It is the body of a component; keys are texts as they are written. -/
  | body
  deriving DecidableEq

/-- The tag of one's own on a value from a text, and the value without it. -/
def ownTag : Value → Option String × Value
  | .tagged tag v => (some tag, v.untagged)
  | .scalar style (some tag) s =>
    if Scalar.isOwnTag tag then (some tag, .scalar style none s)
    else (none, .scalar style (some tag) s)
  | v => (none, v)

/-- The key of an object. -/
def objectKey (isFirst : Bool) : Decoder Value := fun v => do
  match ← follow v with
  | .text s | .scalar _ _ s => return .text s
  | v => throw (.wrongType v (if isFirst then .objectKey else .text))

/-- A value with its references followed and its scalars taken for what they stand for. -/
def settle (purpose : Purpose) : Nat → Decoder Value
  | depth, v => do
    let (tag, v) := ownTag (← follow v)
    let settled ← match v with
      | .scalar style tag s =>
        match Scalar.resolve? style tag s with
        | some v => pure v
        | none => throw .unreadable
      | .list items =>
        match depth with
        | 0 => throw .unreadable
        | depth + 1 => pure (.list (← items.mapM (settle purpose depth)))
      | .map entries =>
        match depth with
        | 0 => throw .unreadable
        | depth + 1 => do
          let entries ← entries.zipIdx.mapM fun (e, i) => do
            let key ← if purpose == .body then objectKey (i == 0) e.1
              else settle purpose depth e.1
            return (key, ← settle purpose depth e.2)
          if purpose == .kept && Value.hasRepeatedKey entries then throw .unreadable
          pure (.map entries)
      | v => pure v
    match tag with
    | none => return settled
    | some tag => if purpose == .kept then return .tagged tag settled else throw .unreadable

/-- A value for some purpose. -/
def settledFor (purpose : Purpose) : Decoder Value := fun v => do
  settle purpose (← read).depth v

/-- A value that is kept as it is. -/
def kept : Decoder Value := settledFor .kept

/-- The body of a component. -/
def json : Decoder Json := fun v => return .ofValue (← settledFor .body v)

end Decode

end AgentConvert
