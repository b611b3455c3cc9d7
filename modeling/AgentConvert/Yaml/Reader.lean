import AgentConvert.Parsed
import AgentConvert.Yaml.Node
import AgentConvert.Yaml.Scan

/-!
# Documents of a text

Nodes from tokens. Each reader returns what it read with the tokens behind it, fewer than it was
given, so reading ends on every list of tokens. A text holds at most one document.
-/

namespace AgentConvert.Yaml

/-! ## Marks -/

/-- Takes the anchor and the tag before a node, in either order. -/
def takeMarks? (tags : List TagDirective) (ts : List Token) :
    Option (Parsed Token Marks (ts.length + 1)) :=
  match ts with
  | .anchor name :: .tag tag :: rest => withTag (some name) tag rest (by
      simp only [List.length_cons]
      omega)
  | .tag tag :: .anchor name :: rest => withTag (some name) tag rest (by
      simp only [List.length_cons]
      omega)
  | .anchor name :: rest => some ⟨⟨some name, none⟩, rest, Nat.lt_succ_of_lt (Nat.lt_succ_self _)⟩
  | .tag tag :: rest => withTag none tag rest (Nat.lt_succ_of_lt (Nat.lt_succ_self _))
  | ts => some ⟨{}, ts, Nat.lt_succ_self _⟩
where
  withTag (anchor : Option String) (tag : Tag) {n : Nat} (rest : List Token)
      (h : rest.length < n) : Option (Parsed Token Marks n) :=
    (tag.fullName? tags).map fun tag => ⟨⟨anchor, some tag⟩, rest, h⟩

/-- The marks of a scalar; a lone exclamation mark is no tag of it. -/
def Marks.ofScalar (marks : Marks) : Marks := { marks with tag := marks.tag.filter (· != "!") }

/-! ## Parts that are left out -/

/-- Where a node stands. -/
inductive Context where
  /-- In a flow collection. -/
  | flow
  | block
  /-- In a block map, where a list need not be indented. -/
  | blockMap
  deriving DecidableEq

namespace Token

/-- Whether an item of an indented list is left out, so that this comes next. -/
def endsItem : Token → Bool
  | item | blockEnd => true
  | _ => false

/-- Whether an item of a list that is not indented is left out, so that this comes next. -/
def endsFlushItem : Token → Bool
  | item | key | value | blockEnd => true
  | _ => false

/-- Whether a key or a value of a block map is left out, so that this comes next. -/
def endsEntry : Token → Bool
  | key | value | blockEnd => true
  | _ => false

/-- Whether a value in a flow collection that `close` ends is left out, so that this comes next. -/
def endsFlowValue (close : Token) (t : Token) : Bool := t == comma || t == close

/-- Whether a key in a flow collection that `close` ends is left out, so that this comes next. -/
def endsFlowKey (close : Token) (t : Token) : Bool := t == value || endsFlowValue close t

/-- Whether a node's own content starts here. -/
def startsContent (context : Context) : Token → Bool
  | scalar .. | flowListStart | flowMapStart => true
  | blockListStart | blockMapStart => context != .flow
  | item => context == .blockMap
  | _ => false

end Token

/-- Takes what separates the parts of a flow collection that `close` ends: `true` if it ends here,
and `false` if a part follows. -/
def takeSeparator? (close : Token) (isFirst : Bool) (ts : List Token) :
    Option (Parsed Token Bool (ts.length + 1)) :=
  match ts with
  | [] => none
  | t :: rest =>
    if t = close then some ⟨true, rest, Nat.lt_succ_of_lt (Nat.lt_succ_self _)⟩
    else if isFirst then some ⟨false, t :: rest, Nat.lt_succ_self _⟩
    else if t = .comma then
      match rest with
      | [] => none
      | u :: after =>
        if u = close then some ⟨true, after, by
          simp only [List.length_cons]
          omega⟩
        else some ⟨false, u :: after, Nat.lt_succ_of_lt (Nat.lt_succ_self _)⟩
    else none

/-! ## Nodes -/

mutual
/-- Takes a node. -/
def takeNode? (tags : List TagDirective) (context : Context) (ts : List Token) :
    Option (Parsed Token Node ts.length) :=
  match ts with
  | .reference name :: rest => some ⟨.reference name, rest, Nat.lt_succ_self _⟩
  | ts =>
    match takeMarks? tags ts with
    | none => none
    | some m =>
      if m.rest.head?.any (Token.startsContent context) then
        match takeContent? tags m.value m.rest with
        | none => none
        | some p => some (p.weaken (Nat.le_of_lt_succ m.shorter))
      else if h : m.rest.length < ts.length then some ⟨.scalar m.value .plain "", m.rest, h⟩
      else none
  termination_by (ts.length, 1)
  decreasing_by
    have := m.shorter
    simp only [Prod.lex_def]
    omega

/-- Takes the content of a node with the given marks. -/
def takeContent? (tags : List TagDirective) (marks : Marks) (ts : List Token) :
    Option (Parsed Token Node ts.length) :=
  match ts with
  | .scalar style text :: rest =>
    some ⟨.scalar marks.ofScalar style text, rest, Nat.lt_succ_self _⟩
  | .flowListStart :: rest =>
    match takeFlowItems? tags true rest with
    | none => none
    | some p => some ((p.map (.list marks)).weaken (Nat.le_succ _))
  | .flowMapStart :: rest =>
    match takeFlowEntries? tags true rest with
    | none => none
    | some p => some ((p.map (.map marks)).weaken (Nat.le_succ _))
  | .blockListStart :: rest =>
    match takeItems? tags rest with
    | none => none
    | some p => some ((p.map (.list marks)).weaken (Nat.le_succ _))
  | .blockMapStart :: rest =>
    match takeEntries? tags rest with
    | none => none
    | some p => some ((p.map (.map marks)).weaken (Nat.le_succ _))
  | .item :: rest =>
    match takeFlushItems? tags rest with
    | none => none
    | some p => some (p.map (.list marks))
  | _ => none
  termination_by (ts.length, 0)
  decreasing_by all_goals simp [Prod.lex_def]

/-- Takes a node, unless the next token shows that it is left out. -/
def takePart? (tags : List TagDirective) (isLeftOut : Token → Bool) (context : Context)
    (ts : List Token) : Option (Parsed Token Node (ts.length + 1)) :=
  match ts with
  | [] => none
  | t :: rest =>
    if isLeftOut t then some ⟨.empty, t :: rest, Nat.lt_succ_self _⟩
    else match takeNode? tags context (t :: rest) with
      | none => none
      | some p => some (p.weaken (Nat.le_succ _))
  termination_by (ts.length, 2)
  decreasing_by simp [Prod.lex_def]

/-- Takes the items of an indented list, up to its end. -/
def takeItems? (tags : List TagDirective) (ts : List Token) :
    Option (Parsed Token (List Node) ts.length) :=
  match ts with
  | .item :: rest =>
    match takePart? tags Token.endsItem .block rest with
    | none => none
    | some p =>
      match takeItems? tags p.rest with
      | none => none
      | some q => some ⟨p.value :: q.value, q.rest, Nat.lt_trans q.shorter p.shorter⟩
  | .blockEnd :: rest => some ⟨[], rest, Nat.lt_succ_self _⟩
  | _ => none
  termination_by (ts.length, 0)
  decreasing_by
    · simp [Prod.lex_def]
    · have := p.shorter
      simp only [Prod.lex_def, List.length_cons]
      omega

/-- Takes the items of a list that is not indented, behind the mark of the first one. -/
def takeFlushItems? (tags : List TagDirective) (ts : List Token) :
    Option (Parsed Token (List Node) (ts.length + 1)) :=
  match takePart? tags Token.endsFlushItem .block ts with
  | none => none
  | some p =>
    match _h : p.rest with
    | .item :: rest =>
      match takeFlushItems? tags rest with
      | none => none
      | some q => some ⟨p.value :: q.value, q.rest, by
          have := p.shorter
          have := q.shorter
          have := congrArg List.length _h
          simp only [List.length_cons] at *
          omega⟩
    | _ => some ⟨[p.value], p.rest, p.shorter⟩
  termination_by (ts.length, 3)
  decreasing_by
    · simp [Prod.lex_def]
    · have := p.shorter
      have := congrArg List.length _h
      simp only [Prod.lex_def, List.length_cons] at *
      omega

/-- Takes the entries of a block map, up to its end. -/
def takeEntries? (tags : List TagDirective) (ts : List Token) :
    Option (Parsed Token (List (Node × Node)) ts.length) :=
  match ts with
  | .key :: rest =>
    match takePart? tags Token.endsEntry .blockMap rest with
    | none => none
    | some k =>
      match takeValue? tags Token.endsEntry .blockMap k.rest with
      | none => none
      | some v =>
        match takeEntries? tags v.rest with
        | none => none
        | some q => some ⟨(k.value, v.value) :: q.value, q.rest, by
            have := k.shorter
            have := v.shorter
            have := q.shorter
            simp only [List.length_cons]
            omega⟩
  | .blockEnd :: rest => some ⟨[], rest, Nat.lt_succ_self _⟩
  | _ => none
  termination_by (ts.length, 0)
  decreasing_by
    · simp [Prod.lex_def]
    · have := k.shorter
      simp only [Prod.lex_def, List.length_cons]
      omega
    · have := k.shorter
      have := v.shorter
      simp only [Prod.lex_def, List.length_cons]
      omega

/-- Takes the value of a key, which may be left out together with its mark. -/
def takeValue? (tags : List TagDirective) (isLeftOut : Token → Bool) (context : Context)
    (ts : List Token) : Option (Parsed Token Node (ts.length + 1)) :=
  match ts with
  | .value :: rest =>
    match takePart? tags isLeftOut context rest with
    | none => none
    | some p => some (p.weaken (Nat.le_succ _))
  | ts => some ⟨.empty, ts, Nat.lt_succ_self _⟩
  termination_by (ts.length, 3)
  decreasing_by simp [Prod.lex_def]

/-- Takes the items of a flow list, up to its end. -/
def takeFlowItems? (tags : List TagDirective) (isFirst : Bool) (ts : List Token) :
    Option (Parsed Token (List Node) ts.length) :=
  match takeSeparator? .flowListEnd isFirst ts with
  | none => none
  | some s =>
    if s.value then if h : s.rest.length < ts.length then some ⟨[], s.rest, h⟩ else none
    else match takeFlowItem? tags s.rest with
      | none => none
      | some p =>
        match takeFlowItems? tags false p.rest with
        | none => none
        | some q => some ⟨p.value :: q.value, q.rest, by
            have := s.shorter
            have := p.shorter
            have := q.shorter
            omega⟩
  termination_by (ts.length, 5)
  decreasing_by
    · have := s.shorter
      simp only [Prod.lex_def]
      omega
    · have := s.shorter
      have := p.shorter
      simp only [Prod.lex_def]
      omega

/-- Takes an item of a flow list. A key and its value are a map with one entry. -/
def takeFlowItem? (tags : List TagDirective) (ts : List Token) :
    Option (Parsed Token Node ts.length) :=
  match ts with
  | .key :: rest =>
    match takePairKey? tags rest with
    | none => none
    | some k =>
      match takeValue? tags (Token.endsFlowValue .flowListEnd) .flow k.rest with
      | none => none
      | some v => some ⟨.map {} [(k.value, v.value)], v.rest, by
          have := k.shorter
          have := v.shorter
          simp only [List.length_cons]
          omega⟩
  | ts => takeNode? tags .flow ts
  termination_by (ts.length, 4)
  decreasing_by
    · simp [Prod.lex_def]
    · have := k.shorter
      simp only [Prod.lex_def, List.length_cons]
      omega
    · simp [Prod.lex_def]

/-- Takes the key of an entry in a flow list. If it is left out, the token that shows this is
taken. -/
def takePairKey? (tags : List TagDirective) (ts : List Token) :
    Option (Parsed Token Node (ts.length + 1)) :=
  match ts with
  | [] => none
  | t :: rest =>
    if Token.endsFlowKey .flowListEnd t then
      some ⟨.empty, rest, Nat.lt_succ_of_lt (Nat.lt_succ_self _)⟩
    else match takeNode? tags .flow (t :: rest) with
      | none => none
      | some p => some (p.weaken (Nat.le_succ _))
  termination_by (ts.length, 2)
  decreasing_by simp [Prod.lex_def]

/-- Takes the entries of a flow map, up to its end. -/
def takeFlowEntries? (tags : List TagDirective) (isFirst : Bool) (ts : List Token) :
    Option (Parsed Token (List (Node × Node)) ts.length) :=
  match takeSeparator? .flowMapEnd isFirst ts with
  | none => none
  | some s =>
    if s.value then if h : s.rest.length < ts.length then some ⟨[], s.rest, h⟩ else none
    else match takeFlowEntry? tags s.rest with
      | none => none
      | some p =>
        match takeFlowEntries? tags false p.rest with
        | none => none
        | some q => some ⟨p.value :: q.value, q.rest, by
            have := s.shorter
            have := p.shorter
            have := q.shorter
            omega⟩
  termination_by (ts.length, 5)
  decreasing_by
    · have := s.shorter
      simp only [Prod.lex_def]
      omega
    · have := s.shorter
      have := p.shorter
      simp only [Prod.lex_def]
      omega

/-- Takes an entry of a flow map. A node without a mark is a key without a value. -/
def takeFlowEntry? (tags : List TagDirective) (ts : List Token) :
    Option (Parsed Token (Node × Node) ts.length) :=
  match ts with
  | .key :: rest =>
    match takePart? tags (Token.endsFlowKey .flowMapEnd) .flow rest with
    | none => none
    | some k =>
      match takeValue? tags (Token.endsFlowValue .flowMapEnd) .flow k.rest with
      | none => none
      | some v => some ⟨(k.value, v.value), v.rest, by
          have := k.shorter
          have := v.shorter
          simp only [List.length_cons]
          omega⟩
  | ts =>
    match takeNode? tags .flow ts with
    | none => none
    | some k => some (k.map fun k => (k, .empty))
  termination_by (ts.length, 4)
  decreasing_by
    · simp [Prod.lex_def]
    · have := k.shorter
      simp only [Prod.lex_def, List.length_cons]
      omega
    · simp [Prod.lex_def]
end

/-! ## Documents -/

namespace Document

/-- The directives before a document. -/
structure Preamble where
  hasVersion : Bool := false
  tags : List TagDirective := []

/-- Takes a directive in. A second version, a version that is not known, or a second meaning for a
handle is refused. -/
def Preamble.add? (p : Preamble) : Directive → Option Preamble
  | .version major minor =>
    if p.hasVersion || !(major == 1 && (minor == 1 || minor == 2)) then none
    else some { p with hasVersion := true }
  | .tag d =>
    if p.tags.any (·.handle == d.handle) then none else some { p with tags := p.tags ++ [d] }

/-- Takes the directives at the head. -/
def takePreamble? : List Token → Preamble → Option (Preamble × List Token)
  | .directive d :: rest, p => (p.add? d).bind (takePreamble? rest)
  | ts, p => some (p, ts)

/-- Whether the content of a document is left out, so that `ts` follow. -/
def isLeftOut : List Token → Bool
  | [] | .directive _ :: _ | .documentStart :: _ | .documentEnd :: _ => true
  | _ => false

/-- Takes the root of a document. -/
def takeRoot? (tags : List TagDirective) (ts : List Token) : Option (Node × List Token) :=
  (takeNode? tags .block ts).map fun p => (p.value, p.rest)

/-- Takes a document; directives and a mark may stand before it. -/
def take? (ts : List Token) : Option (Node × List Token) :=
  match ts with
  | .directive _ :: _ | .documentStart :: _ => do
    let (preamble, rest) ← takePreamble? ts {}
    match rest with
    | .documentStart :: rest =>
      if isLeftOut rest then return (.empty, rest)
      else takeRoot? (preamble.tags ++ TagDirective.standard) rest
    | _ => failure
  | ts => takeRoot? TagDirective.standard ts

/-- The root of the only document; without a document it is an empty node. -/
def root? (ts : List Token) : Option Node :=
  if ts.isEmpty then some .empty
  else do
    let (root, rest) ← take? ts
    if rest.all (· == .documentEnd) then return root else failure

/-- Reads a text; `none` if it is not well-formed. -/
def read? (text : String) : Option Document := do (← root? (← tokens? text)).document?

end Document

end AgentConvert.Yaml
