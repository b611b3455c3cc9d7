import AgentConvert.Pattern.Fault
import AgentConvert.Pattern.Tree
import AgentConvert.Number.Digits
import AgentConvert.Text.Blank

/-!
# Escapes

What a backslash begins, inside and outside of brackets. Where blanks and comments may stand, they
are skipped when the verbose flag is on.
-/

namespace AgentConvert.Pattern

/-- Blanks and comments at the head, when the verbose flag is on. -/
def skipSpace (verbose : Bool) (cs : List Char) : List Char :=
  if verbose then go cs false else cs
where
  /-- Skips blanks, and all characters while inside a comment. -/
  go : List Char → Bool → List Char
    | [], _ => []
    | c :: rest, true => go rest (c != '\n')
    | c :: rest, false =>
      if Text.isBlank c then go rest false
      else if c == '#' then go rest true
      else c :: rest

/-- What an escape stands for. -/
inductive Escaped where
  | literal (c : Char) (byte : Bool)
  | shorthand (kind : Shorthand) (negated : Bool)
  | unicode (negated : Bool) (query : Query)
  | assertion (assertion : Assertion)
  deriving Inhabited

/-- Characters with a meaning of their own. -/
def isMeta (c : Char) : Bool := "\\.+*?()|[]\x7b\x7d^$#&-~".toList.contains c

/-- Characters that stand for themselves behind a backslash. -/
def isEscapable (c : Char) : Bool :=
  isMeta c || (c.toNat < 0x80 && !c.isAlphanum && c != '<' && c != '>')

/-- The character with the code point `n`. -/
def charOfNat? (n : Nat) : Option Char :=
  if n.isValidChar then some (Char.ofNat n) else none

/-- Takes characters that satisfy `p`, skipping what may stand between them. -/
def takeSpaced (verbose : Bool) (p : Char → Bool) (cs : List Char) : List Char × List Char :=
  go cs.length cs []
where
  /-- At most `n` further characters, after those in `taken`, the last one first. -/
  go : Nat → List Char → List Char → List Char × List Char
    | _, [], taken => (taken.reverse, [])
    | 0, cs, taken => (taken.reverse, cs)
    | n + 1, c :: rest, taken =>
      if p c then go n (skipSpace verbose rest) (c :: taken) else (taken.reverse, c :: rest)

/-- The digits of a code point between braces, behind the opening one. -/
def readHexBraces (verbose : Bool) (cs : List Char) : Except Fault (Escaped × List Char) :=
  let (digits, rest) := takeSpaced verbose isHexDigit (skipSpace verbose cs)
  match rest with
  | [] => .error .openEscape
  | '}' :: rest =>
    if digits.isEmpty then .error .emptyHex
    else match charOfNat? (natOfHexDigits digits) with
      | some c => .ok (.literal c false, skipSpace verbose rest)
      | none => .error .hexValue
  | _ => .error .hexDigit

/-- `count` digits of a code point. -/
def readHexDigits (verbose : Bool) (count : Nat) (cs : List Char) :
    Except Fault (Escaped × List Char) :=
  go count cs []
where
  /-- `n` further digits, after those in `taken`, the last one first. -/
  go : Nat → List Char → List Char → Except Fault (Escaped × List Char)
    | 0, cs, taken =>
      match charOfNat? (natOfHexDigits taken.reverse) with
      | some c => .ok (.literal c (count == 2), cs)
      | none => .error .hexValue
    | _ + 1, [], _ => .error .openEscape
    | n + 1, c :: rest, taken =>
      if isHexDigit c then go n (skipSpace verbose rest) (c :: taken) else .error .hexDigit

/-- A code point behind `x`, `u` or `U`, which ask for `count` digits or for braces. -/
def readHex (verbose : Bool) (count : Nat) (cs : List Char) : Except Fault (Escaped × List Char) :=
  match skipSpace verbose cs with
  | [] => .error .openEscape
  | '{' :: rest => readHexBraces verbose rest
  | rest => readHexDigits verbose count rest

/-- `cs` cut at the first place where `mark` stands. -/
def cutAt? (mark : List Char) : List Char → Option (List Char × List Char)
  | [] => none
  | c :: rest =>
    if mark.isPrefixOf (c :: rest) then some ([], (c :: rest).drop mark.length)
    else (cutAt? mark rest).map fun r => (c :: r.1, r.2)

/-- The question that the text between braces asks. -/
def queryOf (cs : List Char) : Query :=
  match (cutAt? ['!', '='] cs).or ((cutAt? [':'] cs).or (cutAt? ['='] cs)) with
  | some (name, value) => .valued (String.ofList name) (String.ofList value)
  | none => .named (String.ofList cs)

/-- The class of a property, behind `p` or `P`. -/
def readProperty (verbose negated : Bool) (cs : List Char) :
    Except Fault (Escaped × List Char) :=
  match skipSpace verbose cs with
  | [] => .error .openEscape
  | '{' :: rest =>
    let (name, rest) := takeSpaced verbose (· != '}') (skipSpace verbose rest)
    match rest with
    | [] => .error .openEscape
    | _ :: rest => .ok (.unicode negated (queryOf name), rest)
  | '\\' :: _ => .error .unicodeClass
  | c :: rest =>
    .ok (.unicode negated (.named (String.singleton c)), skipSpace verbose rest)

/-- The side of a word that a name between braces asks for. -/
def wordSide? (name : String) : Option WordSide :=
  match name with
  | "start" => some .start
  | "end" => some .finish
  | "start-half" => some .startHalf
  | "end-half" => some .finishHalf
  | _ => none

/-- A word boundary behind `\b`: braces may say which, unless they hold the counts of a
repetition. -/
def readWordBoundary (verbose : Bool) (cs : List Char) : Except Fault (Escaped × List Char) :=
  let isName (c : Char) : Bool := c.isAlpha || c == '-'
  match cs with
  | '{' :: rest =>
    match skipSpace verbose rest with
    | [] => .error .openBrace
    | c :: inner =>
      if isName c then
        let (name, after) := takeSpaced verbose isName (c :: inner)
        match after with
        | '}' :: after =>
          match wordSide? (String.ofList name) with
          | some side => .ok (.assertion (.word side), after)
          | none => .error .unknownWordBoundary
        | _ => .error .openWordBoundary
      else .ok (.assertion (.word .boundary), cs)
  | _ => .ok (.assertion (.word .boundary), cs)

/-- The escape behind a backslash. -/
def readEscape (verbose : Bool) (cs : List Char) : Except Fault (Escaped × List Char) :=
  match cs with
  | [] => .error .openEscape
  | c :: rest =>
    if c.isDigit then .error .backreference
    else match c with
      | 'x' => readHex verbose 2 rest
      | 'u' => readHex verbose 4 rest
      | 'U' => readHex verbose 8 rest
      | 'p' => readProperty verbose false rest
      | 'P' => readProperty verbose true rest
      | 'd' => .ok (.shorthand .digit false, rest)
      | 'D' => .ok (.shorthand .digit true, rest)
      | 's' => .ok (.shorthand .space false, rest)
      | 'S' => .ok (.shorthand .space true, rest)
      | 'w' => .ok (.shorthand .word false, rest)
      | 'W' => .ok (.shorthand .word true, rest)
      | 'a' => .ok (.literal '\x07' false, rest)
      | 'f' => .ok (.literal '\x0c' false, rest)
      | 't' => .ok (.literal '\t' false, rest)
      | 'n' => .ok (.literal '\n' false, rest)
      | 'r' => .ok (.literal '\r' false, rest)
      | 'v' => .ok (.literal '\x0b' false, rest)
      | 'A' => .ok (.assertion .textStart, rest)
      | 'z' => .ok (.assertion .textEnd, rest)
      | 'B' => .ok (.assertion (.word .inside), rest)
      | '<' => .ok (.assertion (.word .start), rest)
      | '>' => .ok (.assertion (.word .finish), rest)
      | 'b' => readWordBoundary verbose rest
      | c => if isEscapable c then .ok (.literal c false, rest) else .error .unknownEscape

end AgentConvert.Pattern
