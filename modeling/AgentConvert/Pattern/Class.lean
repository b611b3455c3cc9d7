import AgentConvert.Pattern.Escape

/-!
# Character classes

The text of a class from its opening bracket on: characters, ranges, classes inside the class, and
the operations `&&`, `--` and `~~`.
-/

namespace AgentConvert.Pattern

/-- One end of a range, or an item on its own. -/
def readClassItem (verbose : Bool) (c : Char) (rest : List Char) :
    Except Fault (Escaped × List Char) :=
  if c == '\\' then readEscape verbose rest else .ok (.literal c false, rest)

/-- The set of an item on its own. -/
def setOfItem : Escaped → Except Fault ClassSet
  | .literal c byte => .ok (.literal c byte)
  | .shorthand kind negated => .ok (.shorthand kind negated)
  | .unicode negated query => .ok (.unicode negated query)
  | .assertion _ => .error .classEscape

/-- The character of an item that is the end of a range. -/
def endOfItem : Escaped → Except Fault (Char × Bool)
  | .literal c byte => .ok (c, byte)
  | _ => .error .classRangeEnd

/-- The character that stands behind a hyphen, as far as one look ahead shows it: blanks are passed
over, and a comment is not read to its end but shows its first character. -/
def lookAhead? (verbose : Bool) (cs : List Char) : Option Char :=
  if verbose then
    match cs.dropWhile Text.isBlank with
    | '#' :: comment => (comment.dropWhile Text.isBlank).head?
    | rest => rest.head?
  else cs.head?

/-- An item or a range at the head of `c :: rest`. -/
def readClassRange (verbose : Bool) (c : Char) (rest : List Char) :
    Except Fault (ClassSet × List Char) := do
  let (first, after) ← readClassItem verbose c rest
  match skipSpace verbose after with
  | [] => throw .openClass
  | '-' :: behind =>
    if [some ']', some '-'].contains (lookAhead? verbose behind) then
      return (← setOfItem first, '-' :: behind)
    match skipSpace verbose behind with
    | [] => throw .openClass
    | d :: last => do
      let (last, after) ← readClassItem verbose d last
      let (a, aByte) ← endOfItem first
      let (b, bByte) ← endOfItem last
      if b < a then throw .classRange
      return (.range a b aByte bByte, after)
  | after => return (← setOfItem first, after)

/-- An ASCII class such as `[:alpha:]` at the head of `cs`, whether it is negated, and what follows
it. -/
def takeAsciiClass? (cs : List Char) : Option (AsciiClass × Bool × List Char) :=
  match cs with
  | '[' :: ':' :: rest =>
    let negated := rest.head? == some '^'
    let rest := if negated then rest.drop 1 else rest
    let name := String.ofList (rest.takeWhile (· != ':'))
    match rest.dropWhile (· != ':') with
    | ':' :: ']' :: after => (AsciiClass.named? name).map (·, negated, after)
    | _ => none
  | _ => none

/-- The start of a class behind its bracket: whether it is negated, and the characters that stand
for themselves only there. -/
def openClass (verbose : Bool) (cs : List Char) :
    Except Fault (Bool × List ClassSet × List Char) := do
  let cs := skipSpace verbose cs
  let negated := cs.head? == some '^'
  let cs := if negated then skipSpace verbose (cs.drop 1) else cs
  let (dashes, cs) := takeSpaced verbose (· == '-') cs
  let items := dashes.map fun c => ClassSet.literal c false
  match cs with
  | [] => throw .openClass
  | ']' :: rest =>
    if items.isEmpty then
      let rest := skipSpace verbose rest
      if rest.isEmpty then throw .openClass
      return (negated, [.literal ']' false], rest)
    else return (negated, items, cs)
  | cs => return (negated, items, cs)

/-- A class that is open: whether it is negated, its items so far, the last one first, and what
stands left of its last operation. -/
structure OpenClass where
  negated : Bool
  items : List ClassSet
  left : Option (SetOperation × ClassSet)

namespace OpenClass

/-- The set up to here. -/
def set (o : OpenClass) : ClassSet :=
  let right := ClassSet.ofUnion o.items.reverse
  match o.left with
  | some (operation, left) => .operation operation left right
  | none => right

/-- The class with one more item. -/
def push (o : OpenClass) (s : ClassSet) : OpenClass := { o with items := s :: o.items }

/-- The class behind an operation. -/
def operate (o : OpenClass) (operation : SetOperation) : OpenClass :=
  { o with items := [], left := some (operation, o.set) }

end OpenClass

/-- What one step in a class leads to. -/
inductive ClassStep where
  | more (opened : OpenClass) (outer : List OpenClass) (rest : List Char)
  | done (negated : Bool) (set : ClassSet) (rest : List Char)

/-- One step in the innermost open class. -/
def stepClass (verbose : Bool) (opened : OpenClass) (outer : List OpenClass) (cs : List Char) :
    Except Fault ClassStep := do
  match cs with
  | [] => throw .openClass
  | '[' :: rest =>
    match takeAsciiClass? cs with
    | some (kind, negated, after) =>
      return .more (opened.push (.ascii kind negated)) outer after
    | none => do
      let (negated, items, after) ← openClass verbose rest
      return .more ⟨negated, items.reverse, none⟩ (opened :: outer) after
  | ']' :: rest =>
    match outer with
    | [] => return .done opened.negated opened.set rest
    | parent :: outer =>
      return .more (parent.push (.bracketed opened.negated opened.set)) outer rest
  | '&' :: '&' :: rest => return .more (opened.operate .intersection) outer rest
  | '-' :: '-' :: rest => return .more (opened.operate .difference) outer rest
  | '~' :: '~' :: rest => return .more (opened.operate .symmetricDifference) outer rest
  | c :: rest => do
    let (set, after) ← readClassRange verbose c rest
    return .more (opened.push set) outer after

/-- The rest of a class. Each step takes a character at least; one that did not would leave the
class open. -/
def readOpenClass (verbose : Bool) (opened : OpenClass) (outer : List OpenClass)
    (cs : List Char) : Except Fault (Node × List Char) :=
  match stepClass verbose opened outer (skipSpace verbose cs) with
  | .error e => .error e
  | .ok (.done negated set rest) => .ok (.bracketed negated set, rest)
  | .ok (.more opened outer rest) =>
    if rest.length < cs.length then readOpenClass verbose opened outer rest
    else .error .openClass
  termination_by cs.length

/-- The class behind an opening bracket. -/
def readClass (verbose : Bool) (cs : List Char) : Except Fault (Node × List Char) := do
  let (negated, items, rest) ← openClass verbose cs
  readOpenClass verbose ⟨negated, items.reverse, none⟩ [] rest

end AgentConvert.Pattern
