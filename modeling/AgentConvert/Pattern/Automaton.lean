import AgentConvert.Pattern.Expression
import AgentConvert.Pattern.Fault
import AgentConvert.Unicode.CodeSet
import Std.Data.HashMap

/-!
# Sizes of automata

How many bytes the automaton of an expression takes. There are two automata, one that reads a text
from its start and one that reads it from its end. Both have a state for each step, and beside a
state a list when it has several ways to go on: by bytes, or by branches to other states. Copies of
an expression are laid out one by one, and laying out stops once the limit is passed.

The part of an automaton that tries several words at once is a tree of their letters. Words are
tried in order, so a node at which a word ends is cut there into what comes before the end and what
comes behind it. Each cut of a node takes a state, and one more state branches to the cuts and the
ends between them.

A range of code points is read as sequences of ranges of bytes: the encodings of its characters are
what the sequences match. The range is cut where the length of the encoding changes, at the
surrogates, and where a byte behind the first would not take all its values.
-/

namespace AgentConvert.Pattern

open Unicode

/-! ## Trees of words -/

/-- How many states there are, and how many letters and branches are listed beside them. -/
structure TreeSize where
  states : Nat
  letters : Nat
  branches : Nat

namespace TreeSize

/-- Two sizes together. -/
def add (a b : TreeSize) : TreeSize :=
  ⟨a.states + b.states, a.letters + b.letters, a.branches + b.branches⟩

/-- All sizes together. -/
def sum (sizes : List TreeSize) : TreeSize := sizes.foldl add ⟨0, 0, 0⟩

end TreeSize

section

variable {α : Type}

/-- Words cut at the empty ones among them. -/
def cutAtEnds (words : List (List α)) : List (List (List α)) :=
  words.foldr
    (fun word cuts =>
      match word, cuts with
      | [], cuts => [] :: cuts
      | word, [] => [[word]]
      | word, cut :: rest => (word :: cut) :: rest)
    [[]]

/-- The cuts of a node at which `words` go on. Ends before the first letter count once. -/
def cutsOf (words : List (List α)) : List (List (List α)) :=
  let rest := words.dropWhile List.isEmpty
  if rest.length < words.length then [] :: cutAtEnds rest else cutAtEnds rest

/-- What comes behind a first letter in the words that have it. -/
def wordsBehind [BEq α] (letter : α) (words : List (List α)) : List (List α) :=
  words.filterMap fun
    | [] => none
    | c :: rest => if c == letter then some rest else none

/-- The words behind each first letter. -/
def groupsOf [BEq α] (words : List (List α)) : List (List (List α)) :=
  (words.filterMap List.head?).eraseDups.map fun letter => wordsBehind letter words

/-- The size of the tree of words of `depth` letters at most. Letters are listed where a cut has
several. -/
def treeSize [BEq α] : Nat → List (List α) → TreeSize
  | 0, _ => ⟨0, 0, 0⟩
  | depth + 1, words =>
    let cuts := cutsOf words
    let groups := cuts.map groupsOf
    let below := groups.flatten.map fun words =>
      if words.all List.isEmpty then ⟨0, 0, 0⟩ else treeSize depth words
    let taken := groups.filter (!·.isEmpty)
    let listed := (taken.map fun g => if g.length > 1 then g.length else 0).sum
    .add ⟨taken.length + 1, listed, taken.length + (cuts.length - 1)⟩ (.sum below)

end

/-! ## Sequences of bytes -/

/-- The bytes from `first` to `last`. -/
structure ByteRange where
  first : UInt8
  last : UInt8
  deriving DecidableEq, Inhabited

/-- Where the code points from `first` to `last` are cut for the last bytes of their encodings,
`block` code points at a time. -/
def cutBlock? (first last block : Nat) : Option Nat :=
  if first / block == last / block then none
  else if first % block != 0 then some ((first / block + 1) * block - 1)
  else if last % block != block - 1 then some (last / block * block - 1)
  else none

/-- The last code point of the first part of the code points from `first` to `last`, when they are
no single sequence. -/
def cut? (first last : Nat) : Option Nat :=
  match [0xd7ff, 0xdfff, 0x7f, 0x7ff, 0xffff].find? fun n => first ≤ n && n < last with
  | some n => some n
  | none =>
    if last ≤ 0x7f then none
    else [0x40, 0x1000, 0x40000].findSome? (cutBlock? first last)

/-- The sequences of the code points from `first` to `last`, in order. -/
def sequencesBetween (first last : Nat) : List (List ByteRange) :=
  match cut? first last with
  | some n =>
    if first ≤ n ∧ n < last then sequencesBetween first n ++ sequencesBetween (n + 1) last else []
  | none =>
    if last < first || (0xd800 ≤ first && first ≤ 0xdfff) then []
    else [List.zipWith ByteRange.mk (String.utf8EncodeChar (Char.ofNat first))
      (String.utf8EncodeChar (Char.ofNat last))]
  termination_by last - first

/-- The sequences of the members of a set, in order. -/
def sequencesOf (codes : CodeSet) : List (List ByteRange) :=
  codes.ranges.flatMap fun r => sequencesBetween r.first r.last

/-! ## Layouts -/

/-- The end of a text at which an automaton starts to read. -/
inductive Direction where
  | forward
  | backward
  deriving DecidableEq

/-- What has been laid out of an automaton: its states, and the bytes that their lists take. -/
structure Layout where
  states : Nat
  listed : Nat

/-- A part of an automaton with all that was laid out before it; `branches` when its last state
lists where it goes on. -/
structure Part where
  layout : Layout
  branches : Bool

namespace Layout

/-- The bytes of a state. -/
def stateBytes : Nat := 32

/-- The bytes of an entry for a range of bytes in a list. -/
def rangeBytes : Nat := 8

/-- The bytes of an entry for a branch in a list. -/
def branchBytes : Nat := 4

/-- The bytes that a layout takes. -/
def bytes (l : Layout) : Nat := stateBytes * l.states + l.listed

/-- Whether a layout has passed the limit. -/
def isTooLarge (l : Layout) : Bool := sizeLimit < l.bytes

/-- With `n` more states. -/
def addStates (l : Layout) (n : Nat) : Layout := { l with states := l.states + n }

/-- With a state that lists `n` ranges of bytes. -/
def addRanges (l : Layout) (n : Nat) : Layout := ⟨l.states + 1, l.listed + rangeBytes * n⟩

/-- With `n` more branches in lists. -/
def addBranches (l : Layout) (n : Nat) : Layout := { l with listed := l.listed + branchBytes * n }

/-- With a part that goes on to some state; a part that lists where it goes on lists it. -/
def goOn (l : Layout) (branches : Bool) : Layout := l.addBranches (if branches then 1 else 0)

/-- A part whose last state does not list where it goes on. -/
def part (l : Layout) : Part := ⟨l, false⟩

end Layout

namespace Part

/-- The part, gone on from. -/
def goOn (p : Part) : Layout := p.layout.goOn p.branches

/-- What `next` lays out behind a part, both in a row. -/
def followedBy (p : Part) (next : Layout → Part) : Part :=
  let q := next p.layout
  ⟨q.layout.goOn p.branches, q.branches⟩

end Part

/-! ## Sharing

States that go on alike are shared. What has been laid out is looked up in a table of fixed size,
where a state takes the place of another that was at its slot. -/

/-- One step of the hash that finds a slot: the FNV-1a hash over numbers instead of bytes. -/
def mixHash (hash : UInt64) (n : Nat) : UInt64 := (hash ^^^ n.toUInt64) * 1099511628211

/-- The slot of numbers in a table. -/
def slotOf (size : Nat) (ns : List Nat) : Nat :=
  (ns.foldl mixHash 14695981039346656037).toNat % size

/-- A table of states that may be shared, by the slot of what they were made for. -/
abbrev Shared (κ : Type) := Std.HashMap Nat (κ × Nat)

/-- The state that a slot has for a key. -/
def Shared.find? {κ : Type} [DecidableEq κ] (table : Shared κ) (slot : Nat) (key : κ) :
    Option Nat :=
  match table[slot]? with
  | some (k, state) => if k = key then some state else none
  | none => none

/-! ### Reading forward -/

/-- A range of bytes, and the state behind it. -/
structure Edge where
  range : ByteRange
  target : Nat
  deriving DecidableEq

/-- A layout with the states of a class that may be shared, by their edges. -/
structure ForwardClass where
  layout : Layout
  table : Shared (List Edge)

namespace ForwardClass

/-- A state with the edges, which may be there already. -/
def state (c : ForwardClass) (edges : List Edge) : Nat × ForwardClass :=
  let slot := slotOf 10000
    (edges.flatMap fun e => [e.range.first.toNat, e.range.last.toNat, e.target])
  match c.table.find? slot edges with
  | some state => (state, c)
  | none =>
    let state := c.layout.states
    (state, ⟨c.layout.addRanges edges.length, c.table.insert slot (edges, state)⟩)

/-- A state at which sequences of `length` ranges at most go on to `target`. Sequences that start
with the same range share what is behind it. -/
def node (target : Nat) : Nat → List (List ByteRange) → ForwardClass → Nat × ForwardClass
  | 0, _, c => (target, c)
  | length + 1, sequences, c =>
    let groups := sequences.splitBy fun a b => a.head? == b.head?
    let (edges, c) := groups.foldl
      (fun (edges, c) group =>
        match group with
        | [range] :: _ => (⟨range, target⟩ :: edges, c)
        | (range :: _) :: _ =>
          let (state, c) := node target length (group.map (·.drop 1)) c
          (⟨range, state⟩ :: edges, c)
        | _ => (edges, c))
      ([], c)
    c.state edges.reverse

end ForwardClass

/-- The class of `sequences`, read forward. -/
def layOutForward (sequences : List (List ByteRange)) (l : Layout) : Layout :=
  (ForwardClass.node l.states 4 sequences ⟨l.addStates 1, ∅⟩).2.layout

/-! ### Reading backward -/

/-- A layout with the states of a class that may be shared, by their range and the state behind. -/
structure BackwardClass where
  layout : Layout
  table : Shared (Nat × ByteRange)

namespace BackwardClass

/-- A state for a range that goes on to `target`, which may be there already. -/
def state (c : BackwardClass) (target : Nat) (range : ByteRange) : Nat × BackwardClass :=
  let slot := slotOf 1000 [target, range.first.toNat, range.last.toNat]
  match c.table.find? slot (target, range) with
  | some state => (state, c)
  | none =>
    let state := c.layout.states
    (state, ⟨c.layout.addStates 1, c.table.insert slot ((target, range), state)⟩)

/-- A branch to the states of a sequence, of which the first goes on to `target`. -/
def branch (c : BackwardClass) (target : Nat) : List ByteRange → BackwardClass
  | [] => { c with layout := c.layout.addBranches 1 }
  | range :: rest =>
    let (state, c) := c.state target range
    c.branch state rest

end BackwardClass

/-- The class of `sequences`, read backward. -/
def layOutBackward (sequences : List (List ByteRange)) (l : Layout) : Layout :=
  (sequences.foldl (fun c sequence => c.branch (l.states + 1) sequence)
    (⟨l.addStates 2, ∅⟩ : BackwardClass)).layout

/-! ## Expressions -/

/-- A class. One of ASCII characters is a state with a list of their ranges. -/
def layOutClass (d : Direction) (codes : CodeSet) (l : Layout) : Layout :=
  if codes.isAscii then (l.addStates 1).addRanges codes.ranges.length
  else match d with
    | .forward => layOutForward (sequencesOf codes) l
    | .backward => layOutBackward (sequencesOf codes) l

/-- Words that are tried at once. -/
def layOutWords (d : Direction) (words : List (List UInt8)) (l : Layout) : Layout :=
  let words := match d with
    | .forward => words
    | .backward => words.map List.reverse
  let size := treeSize ((words.map List.length).foldl max 0 + 1) words
  let l := l.addStates (size.states + 1)
  { l with
    listed := l.listed + Layout.rangeBytes * size.letters + Layout.branchBytes * size.branches }

/-- `n` further copies behind a part, as long as the limit is not passed. -/
def layOutCopies (copy : Layout → Part) : Nat → Part → Part
  | 0, p => p
  | n + 1, p => if p.layout.isTooLarge then p else layOutCopies copy n (p.followedBy copy)

/-- `n` copies in a row. -/
def layOutExactly (copy : Layout → Part) (n : Nat) (l : Layout) : Part :=
  match n with
  | 0 => (l.addStates 1).part
  | n + 1 => layOutCopies copy n (copy l)

/-- `n` further copies behind a part that may each be left out with all behind it, as long as the
limit is not passed. -/
def layOutOptional (copy : Layout → Part) : Nat → Part → Part
  | 0, p => p
  | n + 1, p =>
    if p.layout.isTooLarge then p
    else
      let q := copy (p.layout.addStates 1)
      layOutOptional copy n ⟨(q.layout.goOn p.branches).addBranches 2, q.branches⟩

/-- `least` copies or more. What may match the empty text takes two branching states where there may
be no copy. -/
def layOutUnbounded (copy : Layout → Part) (takesRoom : Bool) (least : Nat) (l : Layout) : Part :=
  match least with
  | 0 =>
    if takesRoom then ⟨(copy (l.addStates 1)).goOn.addBranches 1, true⟩
    else ((copy l).goOn.addStates 3 |>.addBranches 4).part
  | 1 => ⟨((copy l).goOn.addStates 1).addBranches 1, true⟩
  | least =>
    let p := (layOutExactly copy (least - 1) l).followedBy copy
    ⟨(p.goOn.addStates 1).addBranches 1, true⟩

/-- From `least` to `most` copies. -/
def layOutRepetition (copy : Layout → Part) (takesRoom : Bool) (least : Nat) (most : Option Nat)
    (l : Layout) : Part :=
  match most with
  | none => layOutUnbounded copy takesRoom least l
  | some most =>
    if least == 0 && most == 1 then
      (((copy (l.addStates 1)).goOn.addStates 1).addBranches 2).part
    else if least == most then layOutExactly copy least l
    else
      let p := layOutExactly copy least l
      (layOutOptional copy (most - least) ⟨p.layout.addStates 1, p.branches⟩).goOn.part

/-- The words of literals, when all expressions are literals. -/
def wordsOf? (es : List Expression) : Option (List (List UInt8)) :=
  es.mapM fun
    | .literal bytes => some bytes
    | _ => none

mutual
/-- Lays out an expression behind what has been laid out. -/
def Expression.layOut (d : Direction) (e : Expression) (l : Layout) : Part :=
  match e with
  | .empty | .place _ => (l.addStates 1).part
  | .literal bytes => (l.addStates bytes.length).part
  | .characters _ codes => (layOutClass d codes l).part
  | .repetition least most _ e =>
    layOutRepetition (e.layOut d) (e.minLength.any (0 < ·)) least most l
  | .capture _ e =>
    match d with
    | .forward => ((e.layOut d (l.addStates 1)).goOn.addStates 1).part
    | .backward => e.layOut d l
  | .concat es => (layOutConcat d es l none).getD (l.addStates 1).part
  | .alternation es =>
    match wordsOf? es with
    | some words => (layOutWords d words l).part
    | none => (layOutBranches d 0 es l).part

/-- Lays out expressions in a row behind a part, in the order in which they are read. -/
def layOutConcat (d : Direction) (es : List Expression) (l : Layout) (before : Option Part) :
    Option Part :=
  match es with
  | [] => before
  | e :: es =>
    let behind (before : Option Part) : Part :=
      match before with
      | some p => p.followedBy (e.layOut d)
      | none => e.layOut d l
    match d with
    | .forward => layOutConcat d es l (some (behind before))
    | .backward => some (behind (layOutConcat d es l before))

/-- Lays out branches, `n` of them before. The state that lists them and the state at which they
meet come behind the second. -/
def layOutBranches (d : Direction) (n : Nat) (es : List Expression) (l : Layout) : Layout :=
  let l := if n == 2 then l.addStates 2 else l
  match es with
  | [] => l
  | e :: es => layOutBranches d (n + 1) es ((e.layOut d l).goOn.addBranches 1)
end

/-- The automaton of an expression. Before it stands a state, and where a match may start anywhere,
one that skips bytes; an automaton that reads forward marks the start and the end of the match. -/
def Expression.automaton (d : Direction) (e : Expression) : Layout :=
  let anchored := match d with
    | .forward => e.startsText
    | .backward => e.endsText
  let start : Part :=
    if anchored then ((⟨0, 0⟩ : Layout).addStates 1).part
    else ⟨(((⟨0, 0⟩ : Layout).addStates 2).addRanges 1).addBranches 1, true⟩
  let whole := match d with
    | .forward => ((e.layOut d (start.layout.addStates 1)).goOn.addStates 1).part
    | .backward => e.layOut d start.layout
  (whole.goOn.addStates 1).goOn start.branches

/-- Whether an automaton of an expression passes the limit. -/
def Expression.isTooLarge (e : Expression) : Bool :=
  (e.automaton .forward).isTooLarge || (e.automaton .backward).isTooLarge

end AgentConvert.Pattern
