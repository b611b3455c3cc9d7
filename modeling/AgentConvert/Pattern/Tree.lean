/-!
# Patterns as trees

The parts of a regular expression as they are written.
-/

namespace AgentConvert.Pattern

/-- The switches of a pattern. -/
inductive Flag where
  | caseInsensitive
  | multiLine
  | dotAll
  | swapGreed
  | unicode
  | crlf
  | verbose
  deriving DecidableEq

/-- The flag that a letter stands for. -/
def Flag.ofChar? : Char → Option Flag
  | 'i' => some caseInsensitive
  | 'm' => some multiLine
  | 's' => some dotAll
  | 'U' => some swapGreed
  | 'u' => some unicode
  | 'R' => some crlf
  | 'x' => some verbose
  | _ => none

/-- Flags that are switched on or off. -/
abbrev FlagSetting := List (Flag × Bool)

/-- What a setting says of a flag. -/
def FlagSetting.get? (s : FlagSetting) (f : Flag) : Option Bool :=
  (s.find? fun e => e.1 = f).map Prod.snd

/-- The shorthand classes. -/
inductive Shorthand where
  | digit
  | space
  | word
  deriving DecidableEq

/-- The classes of ASCII characters that have a name. -/
inductive AsciiClass where
  | alnum
  | alpha
  | ascii
  | blank
  | cntrl
  | digit
  | graph
  | lower
  | print
  | punct
  | space
  | upper
  | word
  | xdigit
  deriving DecidableEq

/-- The class with a name. -/
def AsciiClass.named? (name : String) : Option AsciiClass :=
  match name with
  | "alnum" => some alnum
  | "alpha" => some alpha
  | "ascii" => some ascii
  | "blank" => some blank
  | "cntrl" => some cntrl
  | "digit" => some digit
  | "graph" => some graph
  | "lower" => some lower
  | "print" => some print
  | "punct" => some punct
  | "space" => some space
  | "upper" => some upper
  | "word" => some word
  | "xdigit" => some xdigit
  | _ => none

/-- The sides of a word that an assertion can ask for. -/
inductive WordSide where
  | boundary
  | inside
  | start
  | finish
  | startHalf
  | finishHalf
  deriving DecidableEq

/-- Assertions about the place between two characters. -/
inductive Assertion where
  | lineStart
  | lineEnd
  | textStart
  | textEnd
  | word (side : WordSide)
  deriving DecidableEq

/-- The question that a class asks of a character's properties. -/
inductive Query where
  | named (name : String)
  | valued (name value : String)
  deriving DecidableEq

/-- The operations on sets of characters. -/
inductive SetOperation where
  | intersection
  | difference
  | symmetricDifference
  deriving DecidableEq

/-- A set of characters between brackets. -/
inductive ClassSet where
  | empty
  /-- One character; `byte` when it is written as two hexadecimal digits. -/
  | literal (c : Char) (byte : Bool)
  | range (first last : Char) (firstByte lastByte : Bool)
  | ascii (kind : AsciiClass) (negated : Bool)
  | shorthand (kind : Shorthand) (negated : Bool)
  | unicode (negated : Bool) (query : Query)
  | bracketed (negated : Bool) (set : ClassSet)
  | union (sets : List ClassSet)
  | operation (operation : SetOperation) (left right : ClassSet)
  deriving Inhabited

/-- A part of a pattern. -/
inductive Node where
  | empty
  | flags (setting : FlagSetting)
  | literal (c : Char) (byte : Bool)
  | dot
  | assertion (assertion : Assertion)
  | shorthand (kind : Shorthand) (negated : Bool)
  | unicode (negated : Bool) (query : Query)
  | bracketed (negated : Bool) (set : ClassSet)
  | repetition (least : Nat) (most : Option Nat) (greedy : Bool) (node : Node)
  /-- A group; one that captures has a number. -/
  | group (number : Option Nat) (setting : FlagSetting) (node : Node)
  | alternation (nodes : List Node)
  | concat (nodes : List Node)
  deriving Inhabited

/-- The concatenation of `nodes`. -/
def Node.ofConcat : List Node → Node
  | [] => .empty
  | [n] => n
  | ns => .concat ns

/-- The union of `sets`. -/
def ClassSet.ofUnion : List ClassSet → ClassSet
  | [] => .empty
  | [s] => s
  | ss => .union ss

/-! ## Depth -/

mutual
/-- How deeply brackets and operations are nested in a set. -/
def ClassSet.depth : ClassSet → Nat
  | .bracketed _ set => set.depth + 1
  | .union sets => depthOfSets sets + 1
  | .operation _ a b => max a.depth b.depth + 1
  | _ => 0

/-- The greatest depth among sets. -/
def depthOfSets : List ClassSet → Nat
  | [] => 0
  | s :: rest => max s.depth (depthOfSets rest)
end

mutual
/-- How deeply the parts of a pattern are nested. -/
def Node.depth : Node → Nat
  | .bracketed _ set => set.depth + 1
  | .repetition _ _ _ n => n.depth + 1
  | .group _ _ n => n.depth + 1
  | .alternation ns => depthOfNodes ns + 1
  | .concat ns => depthOfNodes ns + 1
  | _ => 0

/-- The greatest depth among parts. -/
def depthOfNodes : List Node → Nat
  | [] => 0
  | n :: rest => max n.depth (depthOfNodes rest)
end

end AgentConvert.Pattern
