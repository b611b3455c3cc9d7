/-!
# Faults of patterns

Why a text is not a regular expression that can be used.
-/

namespace AgentConvert.Pattern

/-- What is wrong with a pattern. -/
inductive Fault where
  | classEscape
  | classRange
  | classRangeEnd
  | openClass
  | noDecimal
  | decimal
  | emptyHex
  | hexValue
  | hexDigit
  | openEscape
  | unknownEscape
  | danglingNegation
  | duplicateFlag
  | repeatedNegation
  | openFlags
  | unknownFlag
  | duplicateName
  | emptyName
  | nameCharacter
  | openName
  | openGroup
  | strayClose
  | tooDeep
  | countOrder
  | countDecimal
  | openCount
  | nothingToRepeat
  | openWordBoundary
  | unknownWordBoundary
  | openBrace
  | unicodeClass
  | backreference
  | lookAround
  | unicodeOff
  | invalidEncoding
  | unknownProperty
  | unknownPropertyValue
  | tooLarge
  deriving DecidableEq

/-- The limit on nesting. -/
def nestLimit : Nat := 250

/-- The limit on the size of an automaton, in bytes. -/
def sizeLimit : Nat := 10 * 1024 * 1024

/-- What is wrong, in words. -/
def Fault.reason : Fault → String
  | classEscape => "invalid escape sequence found in character class"
  | classRange => "invalid character class range, the start must be <= the end"
  | classRangeEnd => "invalid range boundary, must be a literal"
  | openClass => "unclosed character class"
  | noDecimal => "decimal literal empty"
  | decimal => "decimal literal invalid"
  | emptyHex => "hexadecimal literal empty"
  | hexValue => "hexadecimal literal is not a Unicode scalar value"
  | hexDigit => "invalid hexadecimal digit"
  | openEscape => "incomplete escape sequence, reached end of pattern prematurely"
  | unknownEscape => "unrecognized escape sequence"
  | danglingNegation => "dangling flag negation operator"
  | duplicateFlag => "duplicate flag"
  | repeatedNegation => "flag negation operator repeated"
  | openFlags => "expected flag but got end of regex"
  | unknownFlag => "unrecognized flag"
  | duplicateName => "duplicate capture group name"
  | emptyName => "empty capture group name"
  | nameCharacter => "invalid capture group character"
  | openName => "unclosed capture group name"
  | openGroup => "unclosed group"
  | strayClose => "unopened group"
  | tooDeep =>
    "exceed the maximum number of nested parentheses/brackets (" ++ toString nestLimit ++ ")"
  | countOrder => "invalid repetition count range, the start must be <= the end"
  | countDecimal => "repetition quantifier expects a valid decimal"
  | openCount => "unclosed counted repetition"
  | nothingToRepeat => "repetition operator missing expression"
  | openWordBoundary =>
    "special word boundary assertion is either unclosed or contains an invalid character"
  | unknownWordBoundary =>
    "unrecognized special word boundary assertion, valid choices are: start, end, start-half or " ++
      "end-half"
  | openBrace =>
    "found either the beginning of a special word boundary or a bounded repetition on a \\b " ++
      "with an opening brace, but no closing brace"
  | unicodeClass => "invalid Unicode character class"
  | backreference => "backreferences are not supported"
  | lookAround => "look-around, including look-ahead and look-behind, is not supported"
  | unicodeOff => "Unicode not allowed here"
  | invalidEncoding => "pattern can match invalid UTF-8"
  | unknownProperty => "Unicode property not found"
  | unknownPropertyValue => "Unicode property value not found"
  | tooLarge => "Compiled regex exceeds size limit of " ++ toString sizeLimit ++ " bytes."

end AgentConvert.Pattern
