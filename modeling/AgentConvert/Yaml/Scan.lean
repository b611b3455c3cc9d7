import AgentConvert.Value.Basic
import AgentConvert.Yaml.BlockScalar
import AgentConvert.Yaml.FlowScalar
import AgentConvert.Yaml.Tag

/-!
# Tokens of a text

The parts of a text. Indentation shows in tokens of its own: a block collection starts and ends
with one.

A key on a line is known as one only at the colon behind it, so what may turn out to be a key is
remembered (`PendingKey`), and the token that announces a key is put in front of it later. Such a
key ends on the line where it starts, within 1024 characters. In a block map, what stands at the
column of the keys has to be a key.
-/

namespace AgentConvert.Yaml

/-- A token. The end of a text is the end of its tokens. -/
inductive Token where
  | directive (directive : Directive)
  | documentStart
  | documentEnd
  | blockListStart
  | blockMapStart
  | blockEnd
  | flowListStart
  | flowListEnd
  | flowMapStart
  | flowMapEnd
  /-- A dash before an item. -/
  | item
  /-- A comma in a flow collection. -/
  | comma
  /-- What follows is a key. -/
  | key
  /-- What follows is the value of a key. -/
  | value
  /-- A reference to the node with an anchor. -/
  | reference (name : String)
  | anchor (name : String)
  | tag (tag : Tag)
  | scalar (style : ScalarStyle) (text : String)
  deriving DecidableEq, Inhabited

/-- What may turn out to be a key. -/
structure PendingKey where
  /-- Whether it has to be a key. -/
  isRequired : Bool
  /-- How many tokens stand before it. -/
  tokenCount : Nat
  start : Character

/-- The state between two tokens. -/
structure Scan where
  rest : Chars
  tokens : Array Token := #[]
  /-- The columns of the open block collections, innermost first. -/
  columns : List Nat := []
  /-- What may be a key in the innermost flow collection, or in no flow collection. -/
  pending : Option PendingKey := none
  /-- What may be a key around each open flow collection, innermost first. -/
  outer : List (Option PendingKey) := []
  /-- Whether a key on a line may start here. -/
  allowsKey : Bool := true

namespace Scan

/-- Whether a flow collection is open. -/
def inFlow (s : Scan) : Bool := !s.outer.isEmpty

/-- The column of the innermost block collection; without one it is `-1`. -/
def indent (s : Scan) : Int := (s.columns.head?.map Int.ofNat).getD (-1)

/-- Adds a token and goes on at `rest`. -/
def push (s : Scan) (t : Token) (rest : Chars) : Scan :=
  { s with tokens := s.tokens.push t, rest }

/-- Says whether a key may start behind this. -/
def allow (s : Scan) (allowsKey : Bool) : Scan := { s with allowsKey }

/-! ## Between tokens -/

/-- Skips blanks, comments and line breaks. A tab is skipped only where no key may start. Behind a
line break outside of flow collections a key may start. -/
def skipGap (s : Scan) : Scan :=
  go s.rest s.allowsKey
where
  go (cs : Chars) (allowsKey : Bool) : Scan :=
    match cs with
    | [] => { s with rest := [], allowsKey }
    | c :: rest =>
      if c.char == '\ufeff' && c.column == 0 then go rest allowsKey
      else if c.char == ' ' || (c.char == '\t' && (s.inFlow || !allowsKey)) then go rest allowsKey
      else if c.endsLine then go rest (allowsKey || !s.inFlow)
      else if c.char == '#' then comment rest allowsKey
      else { s with rest := c :: rest, allowsKey }
  comment (cs : Chars) (allowsKey : Bool) : Scan :=
    match cs with
    | [] => { s with rest := [], allowsKey }
    | c :: rest =>
      if c.endsLine then go rest (allowsKey || !s.inFlow) else comment rest allowsKey

/-- Whether a pending key cannot reach as far as `c`. -/
def isStale (c : Character) (key : PendingKey) : Bool :=
  key.start.line < c.line || key.start.index + 1024 < c.index

/-- Forgets a pending key that is stale; `none` if it has to be a key. -/
def dropStale? (c : Character) (key : Option PendingKey) : Option (Option PendingKey) :=
  match key with
  | none => some none
  | some k => if isStale c k then if k.isRequired then none else some none else some key

/-- Forgets the pending keys that are stale at `c`. -/
def dropStaleKeys? (c : Character) (s : Scan) : Option Scan := do
  return { s with pending := ← dropStale? c s.pending, outer := ← s.outer.mapM (dropStale? c) }

/-- Closes the block collections that are indented deeper than `column`. -/
def closeBlocks (column : Int) (s : Scan) : Scan :=
  if s.inFlow then s
  else
    let isDeeper (k : Nat) : Bool := column < k
    let closed := s.columns.takeWhile isDeeper
    { s with
      columns := s.columns.dropWhile isDeeper
      tokens := s.tokens ++ (closed.map fun _ => Token.blockEnd).toArray }

/-- Opens a block collection at `column` unless one is open there; its first token is put behind
`tokenCount` tokens. -/
def openBlock (column tokenCount : Nat) (t : Token) (s : Scan) : Scan :=
  if !s.inFlow && s.indent < column then
    { s with columns := column :: s.columns, tokens := s.tokens.insertIdx! tokenCount t }
  else s

/-! ## Pending keys -/

/-- Forgets the pending key; `none` if it has to be a key. -/
def dropKey? (s : Scan) : Option Scan :=
  if s.pending.any PendingKey.isRequired then none else some { s with pending := none }

/-- Remembers that a key may start at `c`. -/
def saveKey? (c : Character) (s : Scan) : Option Scan :=
  if s.allowsKey then
    let isRequired := !s.inFlow && s.indent == c.column
    (s.dropKey?).map fun s => { s with pending := some ⟨isRequired, s.tokens.size, c⟩ }
  else some s

/-! ## Tokens -/

/-- A directive or a mark between documents closes all blocks. -/
def atDocumentEdge? (s : Scan) : Option Scan := ((s.closeBlocks (-1)).dropKey?).map (·.allow false)

/-- A directive at the head. -/
def directive? (rest : Chars) (s : Scan) : Option Scan := do
  let s ← s.atDocumentEdge?
  let (d, rest) ← Directive.read? rest
  return s.push (.directive d) rest

/-- A flow collection starts at `c`. -/
def openFlow? (c : Character) (t : Token) (rest : Chars) (s : Scan) : Option Scan := do
  let s ← s.saveKey? c
  return ({ s with pending := none, outer := s.pending :: s.outer }.allow true).push t rest

/-- A flow collection ends. -/
def closeFlow? (t : Token) (rest : Chars) (s : Scan) : Option Scan := do
  let s ← s.dropKey?
  let s := match s.outer with
    | [] => s
    | key :: outer => { s with pending := key, outer }
  return (s.allow false).push t rest

/-- A comma in a flow collection. -/
def comma? (rest : Chars) (s : Scan) : Option Scan := do
  return ((← s.dropKey?).allow true).push .comma rest

/-- A dash before an item at `c`. -/
def item? (c : Character) (rest : Chars) (s : Scan) : Option Scan := do
  if !s.inFlow && !s.allowsKey then failure
  let s := s.openBlock c.column s.tokens.size .blockListStart
  return ((← s.dropKey?).allow true).push .item rest

/-- A question mark before a key at `c`. -/
def key? (c : Character) (rest : Chars) (s : Scan) : Option Scan := do
  if !s.inFlow && !s.allowsKey then failure
  let s := s.openBlock c.column s.tokens.size .blockMapStart
  return ((← s.dropKey?).allow !s.inFlow).push .key rest

/-- A colon before a value at `c`. With a key pending, that one is the key. -/
def value? (c : Character) (rest : Chars) (s : Scan) : Option Scan :=
  match s.pending with
  | some k =>
    let s := { s with pending := none, tokens := s.tokens.insertIdx! k.tokenCount .key }
    let s := s.openBlock k.start.column k.tokenCount .blockMapStart
    some ((s.allow false).push .value rest)
  | none =>
    if !s.inFlow && !s.allowsKey then none
    else
      let s := s.openBlock c.column s.tokens.size .blockMapStart
      some ((s.allow !s.inFlow).push .value rest)

/-- The name of an anchor, and what follows it. -/
def anchorName? (cs : Chars) : Option (String × Chars) :=
  let name : Chars := cs.takeWhile Character.isWord
  let rest : Chars := cs.dropWhile Character.isWord
  if name.isEmpty || !(rest.atGap || rest.head?.any "?:,]\x7d%@\x60".toList.contains) then none
  else some (name.text, rest)

/-- An anchor or a reference to one at `c`. -/
def anchor? (make : String → Token) (c : Character) (rest : Chars) (s : Scan) : Option Scan := do
  let s ← s.saveKey? c
  let (name, rest) ← anchorName? rest
  return (s.allow false).push (make name) rest

/-- A tag at `c`. -/
def tag? (c : Character) (rest : Chars) (s : Scan) : Option Scan := do
  let s ← s.saveKey? c
  let (tag, rest) ← Tag.read? s.inFlow (c :: rest)
  return (s.allow false).push (.tag tag) rest

/-- A block scalar. -/
def blockScalar? (style : ScalarStyle) (rest : Chars) (s : Scan) : Option Scan := do
  let s ← s.dropKey?
  let (text, rest) ← BlockScalar.read? style s.indent rest
  return (s.allow true).push (.scalar style text) rest

/-- A quoted scalar at `c`. -/
def quoted? (c : Character) (rest : Chars) (s : Scan) : Option Scan := do
  let s ← s.saveKey? c
  let (text, rest) ← Quoted.textFrom c.char rest []
  return (s.allow false).push (.scalar .quoted text) rest

/-- A plain scalar at `c`. -/
def plain? (c : Character) (rest : Chars) (s : Scan) : Option Scan := do
  let s ← s.saveKey? c
  let p ← Plain.wordsFrom s.inFlow (s.indent + 1).toNat c rest []
  return (s.allow p.endsLine).push (.scalar .plain p.text) p.rest

/-- The characters that no plain scalar starts with. -/
def indicators : List Char := "-?:,[]\x7b\x7d#&*!|>'\"%@\x60".toList

/-- Whether a plain scalar may start with `c`. -/
def startsPlain (s : Scan) (c : Character) (rest : Chars) : Bool :=
  !(c.isGap || indicators.contains c.char) ||
    (c.char == '-' && !(List.head? rest).any Character.isBlank) ||
    (!s.inFlow && (c.char == '?' || c.char == ':') && !rest.atGap)

/-- The token that starts at `c`. -/
def token? (c : Character) (rest : Chars) (s : Scan) : Option Scan :=
  let isMark := s.inFlow || rest.atGap
  if c.column == 0 && c.char == '%' then s.directive? rest
  else if Chars.startsMark (c :: rest) then
    let t := if c.char == '-' then Token.documentStart else .documentEnd
    (s.atDocumentEdge?).map (·.push t (rest.drop 2))
  else match c.char with
    | '[' => s.openFlow? c .flowListStart rest
    | '{' => s.openFlow? c .flowMapStart rest
    | ']' => s.closeFlow? .flowListEnd rest
    | '}' => s.closeFlow? .flowMapEnd rest
    | ',' => s.comma? rest
    | '*' => s.anchor? .reference c rest
    | '&' => s.anchor? .anchor c rest
    | '!' => s.tag? c rest
    | '\'' | '"' => s.quoted? c rest
    | '|' => if s.inFlow then none else s.blockScalar? .literal rest
    | '>' => if s.inFlow then none else s.blockScalar? .folded rest
    | '-' => if rest.atGap then s.item? c rest else s.plain? c rest
    | '?' => if isMark then s.key? c rest else s.plain? c rest
    | ':' => if isMark then s.value? c rest else s.plain? c rest
    | _ => if s.startsPlain c rest then s.plain? c rest else none

/-- The end of the text. -/
def finish? (s : Scan) : Option (List Token) :=
  ((s.closeBlocks (-1)).dropKey?).map (·.tokens.toList)

/-- The tokens up to the end of a text of `total` characters. Each token takes a character at
least. -/
def run? (total : Nat) (s : Scan) : Option (List Token) :=
  let here := s.rest.position total
  let behindGap := s.skipGap
  match behindGap.rest with
  | [] => behindGap.finish?
  | c :: rest =>
    match (behindGap.dropStaleKeys? c).bind fun s => (s.closeBlocks c.column).token? c rest with
    | none => none
    | some next =>
      if here < next.rest.position total ∧ here < total then run? total next else none
  termination_by total - s.rest.position total

end Scan

/-- The tokens of a text; `none` if it is not well-formed. -/
def tokens? (text : String) : Option (List Token) := do
  Scan.run? text.length { rest := ← characters? text }

end AgentConvert.Yaml
