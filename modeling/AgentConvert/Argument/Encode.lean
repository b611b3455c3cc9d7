import AgentConvert.Argument.Basic
import AgentConvert.Component
import AgentConvert.Label
import AgentConvert.Text.Quoted

/-!
# Encoding arguments

The body of a block from its arguments. A record or a map becomes a list of named fields, a record
marked as a block becomes a nested block, and everything else becomes an expression. Each value of
a category is offered to the front-end's override, from the inside out and in the order of the
fields; what the override hands back gets the default rendering.
-/

namespace AgentConvert

/-- A discovery target: its labels in order. -/
abbrev Target := List (String × String)

/-- A value of a category, as an override sees it. -/
inductive Special where
  | secret (text : String)
  | regex (pattern : String)
  | targets (targets : List Target)
  | reference (path : String)
  | placeholder (p : Placeholder)

namespace Special

/-- The target as an object. -/
def targetExpr (t : Target) : Expr := .object (t.map fun l => (l.1, .str l.2))

/-- The default rendering. -/
def render : Special → Expr
  | secret s => .str s
  | regex pattern => .str pattern
  | targets ts => .array (ts.map targetExpr)
  | reference path => .ofDotted path
  | placeholder _ => .array []

def category : Special → Category
  | secret _ => .secret
  | regex _ => .regex
  | targets _ => .targets
  | reference _ => .reference
  | placeholder _ => .placeholder

/-- What an override makes of a value: an expression, or a value that it hands back, which may be
another one than it was offered. -/
abbrev Answer := Except Special Expr

/-- The expression for an answer. What is handed back gets the default rendering. -/
def Answer.render : Answer → Expr
  | .ok e => e
  | .error v => v.render

end Special

/-- How a front-end renders values of the categories. It may keep a state from one value to the
next. -/
abbrev Override (σ : Type) := Special → σ → Special.Answer × σ

/-- The override that hands everything back. -/
def noOverride : Override Unit := fun v s => (.error v, s)

/-- The override that keeps no state. -/
def overrideBy (f : Special → Special.Answer) : Override Unit := fun v s => (f v, s)

/-- What an encoded argument is, as messages name it. -/
inductive Shape where
  | nothing
  | value
  | struct
  | block
  | blocks
  deriving DecidableEq

def Shape.name : Shape → String
  | nothing => "nothing"
  | value => "a value"
  | struct => "a struct"
  | block => "a block"
  | blocks => "a list of blocks"

/-- Why arguments have no encoding. -/
inductive EncodeError where
  | expectedText (got : Shape)
  | targetsNotList
  | targetNotMap
  | targetLabelNotText (key : String)
  | unknownPlaceholder (name : String)
  | concatNotList
  | failing (message : String)
  | notARecord (got : Shape)
  | blockInValue (field : String)
  | mixedList
  | keyNotText
  | unsupported (form : Unsupported)
  deriving DecidableEq

def EncodeError.message : EncodeError → String
  | expectedText got => "expected a string, got " ++ got.name
  | targetsNotList => "targets must be a list"
  | targetNotMap => "a target must be a map"
  | targetLabelNotText key => "target label '" ++ key ++ "' is not a string"
  | unknownPlaceholder name => "unknown placeholder '" ++ name ++ "'"
  | concatNotList => "concat takes a list"
  | failing message => message
  | notARecord got => "block arguments must serialize as a struct, got " ++ got.name
  | blockInValue field => "field '" ++ field ++ "' is a block and cannot appear inside a value"
  | mixedList => "a list cannot mix blocks and values"
  | keyNotText => "object keys must be strings"
  | unsupported form => "unsupported value: " ++ form.name

/-- An encoded argument. A block may carry a name of its own. -/
inductive Encoded where
  | skip
  | expr (e : Expr)
  | fields (fields : List (String × Encoded))
  | block (own : Option String) (fields : List (String × Encoded))
  | blocks (list : List (Option String × List (String × Encoded)))
  deriving Inhabited

namespace Encoded

def shape : Encoded → Shape
  | skip => .nothing
  | expr _ => .value
  | fields _ => .struct
  | block .. => .block
  | blocks _ => .blocks

mutual
/-- The expression of an encoded argument in the place called `context`. -/
def toExpr (context : String) : Encoded → Except EncodeError Expr
  | .skip => .ok .null
  | .expr e => .ok e
  | .fields fs => do return .object (← fieldExprs fs)
  | .block .. => .error (.blockInValue context)
  | .blocks _ => .error (.blockInValue context)

/-- The fields of an object; absent ones are left out. -/
def fieldExprs : List (String × Encoded) → Except EncodeError (List (String × Expr))
  | [] => .ok []
  | (_, .skip) :: rest => fieldExprs rest
  | (name, value) :: rest => do
    let e ← value.toExpr name
    return (name, e) :: (← fieldExprs rest)
end

/-- The text of an encoded argument. -/
def toText : Encoded → Except EncodeError String
  | .expr (.str s) => .ok s
  | other => .error (.expectedText other.shape)

mutual
/-- The body of a block: an attribute for a value, one nested block or more for blocks, nothing for
an absent field. -/
def body : List (String × Encoded) → Except EncodeError Body
  | [] => .ok []
  | (_, .skip) :: rest => body rest
  | (name, .block own inner) :: rest => do
    let inside ← body inner
    return .block (dotted (own.getD name)) none inside :: (← body rest)
  | (name, .blocks list) :: rest => do
    let inside ← bodies name list
    return inside ++ (← body rest)
  | (name, .expr e) :: rest => do return .attribute name e :: (← body rest)
  | (name, .fields inner) :: rest => do
    let entries ← fieldExprs inner
    return .attribute name (.object entries) :: (← body rest)

/-- Nested blocks, named `name` unless they carry a name of their own. -/
def bodies (name : String) :
    List (Option String × List (String × Encoded)) → Except EncodeError Body
  | [] => .ok []
  | (own, inner) :: rest => do
    let inside ← body inner
    return .block (dotted (own.getD name)) none inside :: (← bodies name rest)
end

/-- The encoded argument as a block. -/
def block? : Encoded → Option (Option String × List (String × Encoded))
  | .block own inner => some (own, inner)
  | _ => none

/-- A list of encoded arguments: blocks only, or values only. -/
def ofList (items : List Encoded) : Except EncodeError Encoded := do
  let blocks := items.filterMap block?
  if blocks.isEmpty then return .expr (.array (← items.mapM (toExpr "list element")))
  else if blocks.length = items.length then return .blocks blocks
  else throw .mixedList

/-- The key of a map's entry. -/
def key? : Encoded → Option String
  | .expr (.str s) => some s
  | .expr (.number n) => some n
  | _ => none

/-- One target from the expression that stands for it. -/
def target : Expr → Except EncodeError Target
  | .object labels => labels.mapM fun
    | (k, .str s) => .ok (k, s)
    | (k, _) => .error (.targetLabelNotText k)
  | _ => .error .targetNotMap

/-- The targets of an encoded argument. -/
def targets (e : Encoded) : Except EncodeError (List Target) := do
  match ← e.toExpr "targets" with
  | .array items => items.mapM target
  | _ => .error .targetsNotList

/-- The value of a category from its encoded payload. -/
def special (category : Category) (payload : Encoded) : Except EncodeError Special :=
  match category with
  | .secret => return .secret (← payload.toText)
  | .regex => return .regex (← payload.toText)
  | .reference => return .reference (← payload.toText)
  | .targets => return .targets (← payload.targets)
  | .placeholder => do
    let name ← payload.toText
    match Placeholder.ofName? name with
    | some p => .ok (.placeholder p)
    | none => .error (.unknownPlaceholder name)

end Encoded

namespace Argument

variable {σ : Type}

/-- What an override makes of a value. -/
def consult (hook : Override σ) (value : Special) : StateT σ (Except EncodeError) Encoded :=
  fun s =>
    let answer := hook value s
    .ok (.expr answer.1.render, answer.2)

mutual
/-- Encodes an argument. -/
def encode (hook : Override σ) : Argument → StateT σ (Except EncodeError) Encoded
  | .absent => pure .skip
  | .unit => pure (.expr .null)
  | .bool b => pure (.expr (.bool b))
  | .int n => pure (.expr (.number (toString n)))
  | .float x =>
    if x.isFinite then pure (.expr (.number x.text)) else throw (.unsupported .nonFinite)
  | .text s => pure (.expr (.str s))
  | .wrapped a => a.encode hook
  | .list items => do Encoded.ofList (← encodeItems hook items)
  | .record fields => do return .fields (← encodeFields hook fields)
  | .map entries => do return .fields (← encodeEntries hook entries)
  | .keyless _ => throw .keyNotText
  | .variant name a => do
    match ← a.encode hook with
    | .block none fields => pure (.block (some name) fields)
    | other => pure other
  | .block a => do
    match ← a.encode hook with
    | .fields fields => pure (.block none fields)
    | other => throw (.notARecord other.shape)
  | .special category a => do
    let payload ← a.encode hook
    consult hook (← payload.special category)
  | .concat a => do
    match ← (← a.encode hook).toExpr "concat" with
    | .array args => pure (.expr (.call ["concat"] args))
    | _ => throw .concatNotList
  | .unsupported form => throw (.unsupported form)
  | .failing message => throw (.failing message)

/-- Encodes the items of a list in order. -/
def encodeItems (hook : Override σ) : List Argument → StateT σ (Except EncodeError) (List Encoded)
  | [] => pure []
  | a :: rest => do
    let e ← a.encode hook
    return e :: (← encodeItems hook rest)

/-- Encodes the fields of a record in order. -/
def encodeFields (hook : Override σ) :
    Fields → StateT σ (Except EncodeError) (List (String × Encoded))
  | [] => pure []
  | (name, a) :: rest => do
    let e ← a.encode hook
    return (name, e) :: (← encodeFields hook rest)

/-- Encodes the entries of a map in order, each key before its value. -/
def encodeEntries (hook : Override σ) :
    List (Argument × Argument) → StateT σ (Except EncodeError) (List (String × Encoded))
  | [] => pure []
  | (k, a) :: rest => do
    match (← k.encode hook).key? with
    | none => throw .keyNotText
    | some key =>
      let e ← a.encode hook
      return (key, e) :: (← encodeEntries hook rest)
end

/-- The body of a block with these arguments, and the state in which the override was left. -/
def toBody (hook : Override σ) (args : Argument) (s : σ) : Except EncodeError (Body × σ) := do
  let (encoded, s) ← args.encode hook s
  match encoded with
  | .fields fields => return (← Encoded.body fields, s)
  | .skip => return ([], s)
  | other => throw (.notARecord other.shape)

end Argument

/-- Builds a block from its arguments. An empty label is no label. -/
def Block.buildWith {σ : Type} (hook : Override σ) (kind : ComponentKind) (label : String)
    (args : Argument) (s : σ) : Except EncodeError (Block × σ) := do
  let (body, s) ← args.toBody hook s
  return (⟨kind.segments, if label = "" then none else some label, body⟩, s)

/-- Builds a block from its arguments with an override that keeps no state. -/
def Block.build (hook : Override Unit) (kind : ComponentKind) (label : String) (args : Argument) :
    Except EncodeError Block :=
  (Block.buildWith hook kind label args ()).map Prod.fst

/-- The message for a block that cannot be built. -/
def EncodeError.buildMessage (e : EncodeError) (kind : ComponentKind) (label : String) : String :=
  "failed to build " ++ kind.name ++ " " ++ Text.quoted label ++ ": " ++ e.message

end AgentConvert
