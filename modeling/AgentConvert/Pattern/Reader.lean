import AgentConvert.Pattern.Class
import AgentConvert.Text.Letter

/-!
# Reading patterns

The tree of a regular expression. Groups that are open are kept on a stack, each with what stood
before it.
-/

namespace AgentConvert.Pattern

/-- A group that is open: what stood before it, the last part first, the alternatives before that,
and whether the verbose flag was on. -/
structure OpenGroup where
  number : Option Nat
  setting : FlagSetting
  before : List Node
  alternatives : List Node
  verbose : Bool

/-- What has been read: the parts since the last bar, the last one first, the alternatives before
them, the open groups, the verbose flag, how many groups capture and the names of groups. -/
structure Reading where
  parts : List Node
  alternatives : List Node
  groups : List OpenGroup
  verbose : Bool
  captures : Nat
  names : List (List Char)

namespace Reading

/-- Nothing read yet. -/
def start : Reading := ⟨[], [], [], false, 0, []⟩

/-- With one more part. -/
def push (r : Reading) (n : Node) : Reading := { r with parts := n :: r.parts }

/-- The alternatives of the innermost group, or the last of them alone. -/
def node (r : Reading) : Node :=
  let last := Node.ofConcat r.parts.reverse
  if r.alternatives.isEmpty then last else .alternation (last :: r.alternatives).reverse

/-- Opens a group that sets flags. -/
def openGroup (r : Reading) (number : Option Nat) (setting : FlagSetting) : Reading :=
  { r with
    parts := []
    alternatives := []
    groups := ⟨number, setting, r.parts, r.alternatives, r.verbose⟩ :: r.groups
    verbose := (setting.get? .verbose).getD r.verbose }

/-- Opens a group that captures. -/
def openCapture (r : Reading) : Reading :=
  { r.openGroup (some (r.captures + 1)) [] with captures := r.captures + 1 }

end Reading

/-- Settings of flags up to the colon or the parenthesis that ends them, and that mark with what
follows it. -/
def readFlags (negated afterDash : Bool) (setting : FlagSetting) :
    List Char → Except Fault (FlagSetting × Char × List Char)
  | [] => .error .openFlags
  | c :: rest =>
    if c == ':' || c == ')' then
      if afterDash then .error .danglingNegation else .ok (setting, c, rest)
    else if c == '-' then
      if negated then .error .repeatedNegation else readFlags true true setting rest
    else match Flag.ofChar? c with
      | none => .error .unknownFlag
      | some f =>
        if (setting.get? f).isSome then .error .duplicateFlag
        else readFlags negated false (setting ++ [(f, !negated)]) rest

/-- The name of a group up to its angle, and what follows that. -/
def readName (cs : List Char) : Except Fault (List Char × List Char) := do
  let name := cs.takeWhile (· != '>')
  let isFirst (c : Char) : Bool := c == '_' || Text.isAlphabetic c
  let isFurther (c : Char) : Bool :=
    c == '_' || c == '.' || c == '[' || c == ']' || Text.isAlphanumeric c
  let fits := match name with
    | [] => true
    | c :: rest => isFirst c && rest.all isFurther
  if !fits then throw .nameCharacter
  match cs.dropWhile (· != '>') with
  | [] => throw .openName
  | _ :: rest => if name.isEmpty then throw .emptyName else return (name, rest)

/-- The group or the setting of flags behind an opening parenthesis. -/
def readGroup (r : Reading) (cs : List Char) : Except Fault (Reading × List Char) := do
  let cs := skipSpace r.verbose cs
  if [['?', '='], ['?', '!'], ['?', '<', '='], ['?', '<', '!']].any (·.isPrefixOf cs) then
    throw .lookAround
  let named (rest : List Char) : Except Fault (Reading × List Char) := do
    let (name, rest) ← readName rest
    if r.names.contains name then throw .duplicateName
    return ({ r.openCapture with names := name :: r.names }, rest)
  match cs with
  | '?' :: 'P' :: '<' :: rest => named rest
  | '?' :: '<' :: rest => named rest
  | '?' :: rest => do
    if rest.isEmpty then throw .openGroup
    let (setting, mark, after) ← readFlags false false [] rest
    if mark == ')' then
      if setting.isEmpty then throw .nothingToRepeat
      return ({ r.push (.flags setting) with
        verbose := (setting.get? .verbose).getD r.verbose }, after)
    else return (r.openGroup none setting, after)
  | cs => return (r.openCapture, cs)

/-- Ends the innermost group. -/
def closeGroup (r : Reading) : Except Fault Reading :=
  match r.groups with
  | [] => .error .strayClose
  | g :: groups => .ok { r with
      parts := .group g.number g.setting r.node :: g.before
      alternatives := g.alternatives
      groups := groups
      verbose := g.verbose }

/-- Repeats the last part; a question mark at the head of `cs` asks for the shortest match. -/
def repeatLast (r : Reading) (least : Nat) (most : Option Nat) (cs : List Char) :
    Except Fault (Reading × List Char) :=
  let greedy := cs.head? != some '?'
  match r.parts with
  | [] | .empty :: _ | .flags _ :: _ => .error .nothingToRepeat
  | n :: rest =>
    .ok ({ r with parts := .repetition least most greedy n :: rest },
      if greedy then cs else cs.drop 1)

/-- A whole number with blanks around it; `missing` when there is none. -/
def readDecimal (verbose : Bool) (cs : List Char) : Except Fault Nat × List Char :=
  let (digits, rest) := takeSpaced verbose Char.isDigit (cs.dropWhile Text.isBlank)
  let rest := (takeSpaced verbose Text.isBlank rest).2
  let value := natOfDigits digits
  (if digits.isEmpty then .error .countDecimal
    else if value < UInt32.size then .ok value
    else .error .decimal, rest)

/-- The counts of a repetition behind its opening brace. -/
def readCounts (r : Reading) (cs : List Char) : Except Fault (Reading × List Char) := do
  let _ ← repeatLast r 0 none cs
  let cs := skipSpace r.verbose cs
  if cs.isEmpty then throw .openCount
  let (least, rest) := readDecimal r.verbose cs
  let ends (least : Nat) (most : Option Nat) (rest : List Char) :
      Except Fault (Reading × List Char) := do
    match rest with
    | '}' :: rest =>
      if most.any (· < least) then throw .countOrder
      repeatLast r least most (skipSpace r.verbose rest)
    | _ => throw .openCount
  match rest with
  | [] => throw .openCount
  | ',' :: rest =>
    match skipSpace r.verbose rest with
    | [] => throw .openCount
    | '}' :: rest => ends (← least) none ('}' :: rest)
    | rest => do
      let least ← least
      let (most, rest) := readDecimal r.verbose rest
      ends least (some (← most)) rest
  | rest => do
    let least ← least
    ends least (some least) rest

/-- One step at `c :: rest`. -/
def stepPattern (r : Reading) (c : Char) (rest : List Char) : Except Fault (Reading × List Char) :=
  match c with
  | '(' => readGroup r rest
  | ')' => (closeGroup r).map (·, rest)
  | '|' => .ok ({ r with
      parts := [], alternatives := Node.ofConcat r.parts.reverse :: r.alternatives }, rest)
  | '[' => (readClass r.verbose rest).map fun n => (r.push n.1, n.2)
  | '?' => repeatLast r 0 (some 1) rest
  | '*' => repeatLast r 0 none rest
  | '+' => repeatLast r 1 none rest
  | '{' => readCounts r rest
  | '.' => .ok (r.push .dot, rest)
  | '^' => .ok (r.push (.assertion .lineStart), rest)
  | '$' => .ok (r.push (.assertion .lineEnd), rest)
  | '\\' => (readEscape r.verbose rest).map fun e =>
      (r.push (match e.1 with
        | .literal c byte => .literal c byte
        | .shorthand kind negated => .shorthand kind negated
        | .unicode negated query => .unicode negated query
        | .assertion assertion => .assertion assertion), e.2)
  | c => .ok (r.push (.literal c false), rest)

/-- Reads the rest of a pattern in `steps` steps at most. -/
def readFrom : Nat → Reading → List Char → Except Fault Node
  | 0, r, _ => .ok r.node
  | steps + 1, r, cs =>
    match skipSpace r.verbose cs with
    | [] => if r.groups.isEmpty then .ok r.node else .error .openGroup
    | c :: rest =>
      match stepPattern r c rest with
      | .error e => .error e
      | .ok (r, after) => readFrom steps r after

/-- The tree of a pattern. Each step takes a character at least. -/
def read (pattern : String) : Except Fault Node := do
  let cs := pattern.toList
  let n ← readFrom (cs.length + 1) .start cs
  if n.depth > nestLimit then throw .tooDeep else return n

end AgentConvert.Pattern
