import AgentConvert.Pattern.Expression
import AgentConvert.Pattern.Property
import AgentConvert.Unicode.CaseFold

/-!
# What patterns mean

The expression that a pattern stands for. Flags are applied, classes become sets of code points and
questions about properties are answered. A pattern whose flags rule out what is written in it has
no meaning, nor has one that could match a part of a character.
-/

namespace AgentConvert.Pattern

open Unicode

/-- The flags that are on at a place in a pattern. -/
structure Switches where
  caseInsensitive : Bool
  multiLine : Bool
  dotAll : Bool
  swapGreed : Bool
  unicode : Bool
  crlf : Bool

namespace Switches

/-- The flags at the start of a pattern. -/
def initial : Switches := ⟨false, false, false, false, true, false⟩

/-- The flags behind a setting. -/
def apply (w : Switches) (setting : FlagSetting) : Switches where
  caseInsensitive := (setting.get? .caseInsensitive).getD w.caseInsensitive
  multiLine := (setting.get? .multiLine).getD w.multiLine
  dotAll := (setting.get? .dotAll).getD w.dotAll
  swapGreed := (setting.get? .swapGreed).getD w.swapGreed
  unicode := (setting.get? .unicode).getD w.unicode
  crlf := (setting.get? .crlf).getD w.crlf

end Switches

/-! ## Sets -/

/-- The members of a class of ASCII characters. -/
def AsciiClass.codes : AsciiClass → CodeSet
  | alnum => .ofPairs [(0x30, 0x39), (0x41, 0x5a), (0x61, 0x7a)]
  | alpha => .ofPairs [(0x41, 0x5a), (0x61, 0x7a)]
  | ascii => .range 0 0x7f
  | blank => .ofPairs [(0x9, 0x9), (0x20, 0x20)]
  | cntrl => .ofPairs [(0, 0x1f), (0x7f, 0x7f)]
  | digit => .range 0x30 0x39
  | graph => .range 0x21 0x7e
  | lower => .range 0x61 0x7a
  | print => .range 0x20 0x7e
  | punct => .ofPairs [(0x21, 0x2f), (0x3a, 0x40), (0x5b, 0x60), (0x7b, 0x7e)]
  | space => .ofPairs [(0x9, 0xd), (0x20, 0x20)]
  | upper => .range 0x41 0x5a
  | word => .ofPairs [(0x30, 0x39), (0x41, 0x5a), (0x5f, 0x5f), (0x61, 0x7a)]
  | xdigit => .ofPairs [(0x30, 0x39), (0x41, 0x46), (0x61, 0x66)]

/-- The members of a shorthand class. -/
def Shorthand.codes : Shorthand → CodeSet
  | digit => Category.codes [.decimalNumber]
  | space => BinaryProperty.whiteSpace.codes
  | word =>
    .unions [BinaryProperty.alphabetic.codes, BinaryProperty.joinControl.codes,
      Category.codes ([.decimalNumber, .connectorPunctuation] ++ Category.marks)]

/-- The ASCII members of a shorthand class. -/
def Shorthand.asciiCodes : Shorthand → CodeSet
  | digit => AsciiClass.digit.codes
  | space => AsciiClass.space.codes
  | word => AsciiClass.word.codes

namespace Switches

/-- A set with every form of its letters, where case does not count. -/
def fold (w : Switches) (s : CodeSet) : CodeSet :=
  if !w.caseInsensitive then s
  else if w.unicode then s.closeUnderCase
  else s.closeUnderAsciiCase

/-- The complement of a set, which has to be asked for under the unicode flag, or else it would hold
parts of characters. -/
def complement (w : Switches) (negated : Bool) (s : CodeSet) : Except Fault CodeSet :=
  if !negated then .ok s
  else if w.unicode then .ok s.compl
  else .error .invalidEncoding

/-- The code point of a character in a set. Without the unicode flag it has to be ASCII. -/
def codeInSet (w : Switches) (c : Char) (byte : Bool) : Except Fault Nat :=
  if w.unicode || c.toNat < 0x80 then .ok c.toNat
  else if byte then .error .invalidEncoding
  else .error .unicodeOff

/-- The members of a shorthand class or of its complement. -/
def shorthand (w : Switches) (kind : Shorthand) (negated : Bool) : Except Fault CodeSet :=
  w.complement negated (if w.unicode then kind.codes else kind.asciiCodes)

/-- The members of the class of a question about properties, or of its complement. -/
def property (w : Switches) (negated : Bool) (query : Query) : Except Fault CodeSet := do
  if !w.unicode then throw .unicodeOff
  w.complement negated (w.fold (← query.codes))

end Switches

/-- The outcome of an operation. -/
def SetOperation.apply (operation : SetOperation) (s t : CodeSet) : CodeSet :=
  match operation with
  | intersection => s.inter t
  | difference => s.diff t
  | symmetricDifference => s.symmDiff t

mutual
/-- The members of a set between brackets. -/
def ClassSet.codes (w : Switches) : ClassSet → Except Fault CodeSet
  | .empty => .ok .empty
  | .literal c byte => (w.codeInSet c byte).map .singleton
  | .range a b aByte bByte => do
    let first ← w.codeInSet a aByte
    let last ← w.codeInSet b bByte
    return .range first last
  | .ascii kind negated => w.complement negated (w.fold kind.codes)
  | .shorthand kind negated => w.shorthand kind negated
  | .unicode negated query => w.property negated query
  | .bracketed negated set => do w.complement negated (w.fold (← set.codes w))
  | .union sets => (codesOfSets w sets).map .unions
  | .operation operation a b => do
    let left ← a.codes w
    let right ← b.codes w
    return operation.apply (w.fold left) (w.fold right)

/-- The members of each of several sets. -/
def codesOfSets (w : Switches) : List ClassSet → Except Fault (List CodeSet)
  | [] => .ok []
  | s :: rest => do
    let codes ← s.codes w
    return codes :: (← codesOfSets w rest)
end

/-! ## Expressions -/

namespace Switches

/-- A character on its own. A byte beyond ASCII would be a part of a character without the unicode
flag. -/
def literal (w : Switches) (c : Char) (byte : Bool) : Except Fault Expression :=
  if !w.unicode && byte && 0x80 ≤ c.toNat then .error .invalidEncoding
  else .ok (.ofCodes w.unicode (w.fold (.singleton c.toNat)))

/-- Any character, but for the line ends unless the flags include them. -/
def dot (w : Switches) : Except Fault Expression :=
  if !w.unicode then .error .invalidEncoding
  else
    let ends : CodeSet :=
      if w.dotAll then .empty
      else if w.crlf then .ofPairs [(0xa, 0xa), (0xd, 0xd)]
      else .singleton 0xa
    .ok (.ofCodes true ends.compl)

/-- The place that an assertion asks for. -/
def place (w : Switches) : Assertion → Place
  | .lineStart => if w.multiLine then .lineStart w.crlf else .textStart
  | .lineEnd => if w.multiLine then .lineEnd w.crlf else .textEnd
  | .textStart => .textStart
  | .textEnd => .textEnd
  | .word side => .word side w.unicode

end Switches

mutual
/-- The expression that a part of a pattern stands for, and the flags behind it. -/
def Node.resolve (w : Switches) : Node → Except Fault (Expression × Switches)
  | .empty => .ok (.empty, w)
  | .flags setting => .ok (.empty, w.apply setting)
  | .literal c byte => (w.literal c byte).map (·, w)
  | .dot => w.dot.map (·, w)
  | .assertion a => .ok (.place (w.place a), w)
  | .shorthand kind negated => (w.shorthand kind negated).map (.ofCodes w.unicode ·, w)
  | .unicode negated query => (w.property negated query).map (.ofCodes w.unicode ·, w)
  | .bracketed negated set => do
    return (.ofCodes w.unicode (← w.complement negated (w.fold (← set.codes w))), w)
  | .repetition least most greedy n => do
    let (e, w) ← n.resolve w
    return (.ofRepetition least most (greedy != w.swapGreed) e, w)
  | .group number setting n => do
    let (e, _) ← n.resolve (w.apply setting)
    return (match number with | some k => .capture k e | none => e, w)
  | .alternation ns => do
    let (es, w) ← resolveAll w ns
    return (.ofAlternation es, w)
  | .concat ns => do
    let (es, w) ← resolveAll w ns
    return (.ofConcat es, w)

/-- The expressions that parts stand for in order, and the flags behind them. -/
def resolveAll (w : Switches) : List Node → Except Fault (List Expression × Switches)
  | [] => .ok ([], w)
  | n :: rest => do
    let (e, w) ← n.resolve w
    let (es, w) ← resolveAll w rest
    return (e :: es, w)
end

end AgentConvert.Pattern
