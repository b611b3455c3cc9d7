import AgentConvert.Pattern.Tree
import AgentConvert.Unicode.CodeSet

/-!
# Expressions

What a pattern means once its flags have been applied and its classes are sets of code points. The
functions that build expressions keep them small: literals in a row are one literal, a sequence in a
sequence is part of it, alternatives that are single characters are a class, and what all
alternatives start with stands before them.
-/

namespace AgentConvert.Pattern

open Unicode

/-- A place between two characters, with the flags that change what it means. -/
inductive Place where
  | textStart
  | textEnd
  | lineStart (crlf : Bool)
  | lineEnd (crlf : Bool)
  | word (side : WordSide) (unicode : Bool)
  deriving DecidableEq

/-- An expression. -/
inductive Expression where
  | empty
  /-- Bytes in a row. -/
  | literal (bytes : List UInt8)
  /-- One character of a set; `unicode` when the set may go beyond ASCII. -/
  | characters (unicode : Bool) (codes : CodeSet)
  | place (place : Place)
  | repetition (least : Nat) (most : Option Nat) (greedy : Bool) (body : Expression)
  | capture (number : Nat) (body : Expression)
  | concat (parts : List Expression)
  | alternation (branches : List Expression)
  deriving Inhabited

namespace Expression

/-! ## Equality -/

mutual
/-- Whether two expressions are the same. -/
def same : Expression → Expression → Bool
  | empty, empty => true
  | literal a, literal b => a == b
  | characters u s, characters v t => u == v && s == t
  | place p, place q => p == q
  | repetition l m g e, repetition l' m' g' e' => l == l' && m == m' && g == g' && same e e'
  | capture n e, capture n' e' => n == n' && same e e'
  | concat es, concat fs => sameAll es fs
  | alternation es, alternation fs => sameAll es fs
  | _, _ => false

/-- Whether two lists of expressions are the same. -/
def sameAll : List Expression → List Expression → Bool
  | [], [] => true
  | e :: es, f :: fs => same e f && sameAll es fs
  | _, _ => false
end

/-! ## Length -/

/-- How many bytes the character with a code point takes. -/
def utf8Length (n : Nat) : Nat :=
  if n < 0x80 then 1 else if n < 0x800 then 2 else if n < 0x10000 then 3 else 4

/-- The sum of two lengths that may be unknown. -/
def addLength (a b : Option Nat) : Option Nat := a.bind fun a => b.map (a + ·)

/-- A choice of two lengths that may be unknown. -/
def eitherLength (choose : Nat → Nat → Nat) (a b : Option Nat) : Option Nat :=
  a.bind fun a => b.map (choose a)

mutual
/-- The length of the shortest match in bytes, when there is a match at all. -/
def minLength : Expression → Option Nat
  | empty | place _ => some 0
  | literal bytes => some bytes.length
  | characters _ codes => codes.first?.map utf8Length
  | repetition least _ _ e => e.minLength.map (least * ·)
  | capture _ e => e.minLength
  | concat es => minLengthOfAll es
  | alternation [] => none
  | alternation (e :: es) => minLengthOfAny e.minLength es

/-- The length of the shortest match of a sequence. -/
def minLengthOfAll : List Expression → Option Nat
  | [] => some 0
  | e :: es => addLength e.minLength (minLengthOfAll es)

/-- The least of a length and the lengths of the shortest matches of branches. -/
def minLengthOfAny (least : Option Nat) : List Expression → Option Nat
  | [] => least
  | e :: es => minLengthOfAny (eitherLength min least e.minLength) es
end

mutual
/-- The length of the longest match in bytes, when there is one. -/
def maxLength : Expression → Option Nat
  | empty | place _ => some 0
  | literal bytes => some bytes.length
  | characters _ codes => codes.last?.map utf8Length
  | repetition _ most _ e => most.bind fun most => e.maxLength.map (most * ·)
  | capture _ e => e.maxLength
  | concat es => maxLengthOfAll es
  | alternation [] => none
  | alternation (e :: es) => maxLengthOfAny e.maxLength es

/-- The length of the longest match of a sequence. -/
def maxLengthOfAll : List Expression → Option Nat
  | [] => some 0
  | e :: es => addLength e.maxLength (maxLengthOfAll es)

/-- The greatest of a length and the lengths of the longest matches of branches. -/
def maxLengthOfAny (most : Option Nat) : List Expression → Option Nat
  | [] => most
  | e :: es => maxLengthOfAny (eitherLength max most e.maxLength) es
end

/-- Whether a match cannot be longer than the empty text. -/
def isEmptyOnly (e : Expression) : Bool := e.maxLength == some 0

/-! ## Building -/

/-- What matches nothing, not even the empty text. -/
def nothing : Expression := characters false .empty

/-- The bytes of the character with a code point. -/
def utf8Bytes (n : Nat) : List UInt8 := String.utf8EncodeChar (Char.ofNat n)

/-- One character of a set; a set of one character is a literal. -/
def ofCodes (unicode : Bool) (codes : CodeSet) : Expression :=
  match codes.ranges with
  | [] => nothing
  | [r] => if r.first == r.last then literal (utf8Bytes r.first) else characters unicode codes
  | _ => characters unicode codes

/-- Copies of an expression in a row. What matches the empty text alone is repeated once at most. -/
def ofRepetition (least : Nat) (most : Option Nat) (greedy : Bool) (e : Expression) : Expression :=
  let (least, most) :=
    if e.isEmptyOnly then (min least 1, some (min (most.getD 1) 1)) else (least, most)
  if most == some 0 then empty
  else if least == 1 && most == some 1 then e
  else repetition least most greedy e

/-- The parts of a sequence, or an expression that is none on its own. -/
def parts : Expression → List Expression
  | concat es => es
  | e => [e]

/-- The branches of an alternation, or an expression that is none on its own. -/
def branches : Expression → List Expression
  | alternation es => es
  | e => [e]

/-- Puts an expression before a sequence: an empty one goes, and a literal before a literal becomes
one with it. -/
def prepend : Expression → List Expression → List Expression
  | empty, es => es
  | literal a, literal b :: es => literal (a ++ b) :: es
  | e, es => e :: es

/-- Expressions in a row. -/
def ofConcat (es : List Expression) : Expression :=
  match (es.flatMap parts).foldr prepend [] with
  | [] => empty
  | [e] => e
  | es => concat es

/-- The code point of a literal of one character. -/
def codeOfLiteral? : Expression → Option Nat
  | literal bytes =>
    (String.fromUTF8? ⟨bytes.toArray⟩).bind fun s =>
      match s.toList with
      | [c] => some c.toNat
      | _ => none
  | _ => none

/-- The set of an expression that is one. -/
def codesOf? : Expression → Option CodeSet
  | characters _ codes => some codes
  | _ => none

/-- How many expressions two sequences have in common from the start on. -/
def commonLength : List Expression → List Expression → Nat
  | e :: es, f :: fs => if same e f then commonLength es fs + 1 else 0
  | _, _ => 0

/-- The parts of an expression that is a sequence. -/
def sequence? : Expression → Option (List Expression)
  | concat es => some es
  | _ => none

/-- The sequences behind what all of `seqs` start with, and that. -/
def liftCommon? : List (List Expression) → Option (List Expression × List (List Expression))
  | [] => none
  | first :: rest =>
    let n := rest.foldl (fun n seq => min n (commonLength first seq)) first.length
    if n == 0 then none else some (first.take n, (first :: rest).map (·.drop n))

/-- One of several expressions, where what they have in common is put before them `fuel` times at
most. -/
def ofAlternationFuel : Nat → List Expression → Expression
  | fuel, es =>
    match es.flatMap branches with
    | [] => nothing
    | [e] => e
    | es =>
      match es.mapM codeOfLiteral? with
      | some codes => ofCodes true (.ofRanges (codes.map fun n => ⟨n, n⟩))
      | none =>
        match es.mapM codesOf? with
        | some sets => ofCodes true (.unions sets)
        | none =>
          match fuel, (es.mapM sequence?).bind liftCommon? with
          | fuel + 1, some (common, rests) =>
            ofConcat (common ++ [ofAlternationFuel fuel (rests.map ofConcat)])
          | _, _ => alternation es

mutual
/-- How many expressions an expression is made of. -/
def size : Expression → Nat
  | repetition _ _ _ e => e.size + 1
  | capture _ e => e.size + 1
  | concat es => sizeOfAll es + 1
  | alternation es => sizeOfAll es + 1
  | _ => 1

/-- How many expressions are in a list, and in what it holds. -/
def sizeOfAll : List Expression → Nat
  | [] => 0
  | e :: es => e.size + sizeOfAll es
end

/-- One of several expressions. Each time that something is put before the rest, the rest becomes
smaller. -/
def ofAlternation (es : List Expression) : Expression := ofAlternationFuel (sizeOfAll es) es

/-! ## Anchors -/

mutual
/-- Whether a match has to start at the start of the text. -/
def startsText : Expression → Bool
  | place p => p == .textStart
  | repetition least _ _ e => 0 < least && e.startsText
  | capture _ e => e.startsText
  | concat es => someStartsText es
  | alternation es => !es.isEmpty && allStartText es
  | _ => false

/-- Whether one of the expressions at the head of a sequence, up to the first that takes room, has
to start at the start of the text. -/
def someStartsText : List Expression → Bool
  | [] => false
  | e :: es => e.startsText || (e.isEmptyOnly && someStartsText es)

/-- Whether all branches have to start at the start of the text. -/
def allStartText : List Expression → Bool
  | [] => true
  | e :: es => e.startsText && allStartText es
end

mutual
/-- Whether a match has to end at the end of the text. -/
def endsText : Expression → Bool
  | place p => p == .textEnd
  | repetition least _ _ e => 0 < least && e.endsText
  | capture _ e => e.endsText
  | concat es => (someEndsText es).1
  | alternation es => !es.isEmpty && allEndText es
  | _ => false

/-- Whether one of the expressions at the end of a sequence, from the last that takes room on, has
to end at the end of the text, and whether none of the sequence takes room. -/
def someEndsText : List Expression → Bool × Bool
  | [] => (false, true)
  | e :: es =>
    let (ends, free) := someEndsText es
    (ends || (free && e.endsText), free && e.isEmptyOnly)

/-- Whether all branches have to end at the end of the text. -/
def allEndText : List Expression → Bool
  | [] => true
  | e :: es => e.endsText && allEndText es
end

end Expression

end AgentConvert.Pattern
