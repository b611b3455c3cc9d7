/-!
# Characters of a text

The characters of a configuration's text with the places where they stand. All line breaks but the
separators of lines and paragraphs are read as line feeds, a carriage return and a line feed
together as one.
-/

namespace AgentConvert.Yaml

/-- A character and where it stands. -/
structure Character where
  char : Char
  /-- How many characters of the text stand before it. -/
  index : Nat
  line : Nat
  column : Nat
  deriving Inhabited

/-- A text or the rest of one. -/
abbrev Chars := List Character

/-- Whether `c` may stand in a text: no control character, surrogate or other non-character. -/
def isPermitted (c : Char) : Bool :=
  let n := c.toNat
  n == 0x9 || n == 0xa || n == 0xd || (0x20 ≤ n && n ≤ 0x7e) || n == 0x85 ||
    (0xa0 ≤ n && n ≤ 0xd7ff) || (0xe000 ≤ n && n ≤ 0xfffd) || 0x10000 ≤ n

/-- Whether `c` ends a line. -/
def isBreak (c : Char) : Bool :=
  c == '\n' || c == '\r' || c == '\u0085' || c == '\u2028' || c == '\u2029'

/-- A line break as it is read. -/
def breakRead (c : Char) : Char := if c == '\u2028' || c == '\u2029' then c else '\n'

/-- The characters of `cs` from a place on, behind those that are `done`. -/
def placeFrom (index line column : Nat) (cs : List Char) (done : Array Character) :
    Array Character :=
  match cs with
  | [] => done
  | '\r' :: '\n' :: rest =>
    placeFrom (index + 2) (line + 1) 0 rest (done.push ⟨'\n', index, line, column⟩)
  | c :: rest =>
    if isBreak c then
      placeFrom (index + 1) (line + 1) 0 rest (done.push ⟨breakRead c, index, line, column⟩)
    else placeFrom (index + 1) line (column + 1) rest (done.push ⟨c, index, line, column⟩)

/-- The characters of a text, if all are permitted. -/
def characters? (s : String) : Option Chars :=
  if s.toList.all isPermitted then some (placeFrom 0 0 0 s.toList #[]).toList else none

/-! ## Kinds of characters -/

namespace Character

/-- Whether the character is a space or a tab. -/
def isBlank (c : Character) : Bool := c.char == ' ' || c.char == '\t'

/-- Whether the character ends a line. -/
def endsLine (c : Character) : Bool := isBreak c.char

/-- Whether the character separates words. -/
def isGap (c : Character) : Bool := c.isBlank || c.endsLine

/-- Whether the character may stand in the name of an anchor, a directive or a tag handle. -/
def isWord (c : Character) : Bool := c.char.isAlphanum || c.char == '_' || c.char == '-'

/-- The value of a hexadecimal digit. -/
def hexDigit? (c : Character) : Option Nat :=
  let c := c.char
  if c.isDigit then some (c.toNat - '0'.toNat)
  else if 'a' ≤ c ∧ c ≤ 'f' then some (c.toNat - 'a'.toNat + 10)
  else if 'A' ≤ c ∧ c ≤ 'F' then some (c.toNat - 'A'.toNat + 10)
  else none

end Character

namespace Chars

/-- The character at the head. -/
def head? (cs : Chars) : Option Char := (List.head? cs).map Character.char

/-- Whether `c` stands at the head. -/
def startsWith (cs : Chars) (c : Char) : Bool := cs.head? == some c

/-- Whether words are separated here: by a blank, a line break or the end. -/
def atGap (cs : Chars) : Bool := (List.head? cs).all Character.isGap

/-- Whether the line ends here. -/
def atLineEnd (cs : Chars) : Bool := (List.head? cs).all Character.endsLine

/-- How many characters stand before the rest of a text of `total` characters. -/
def position (total : Nat) (cs : Chars) : Nat := ((List.head? cs).map Character.index).getD total

/-- The text of some characters. -/
def text (cs : Chars) : String := String.ofList (cs.map Character.char)

/-- Whether `c` three times stands at the head of a line, with nothing joined to it. -/
def startsLineWith (c : Char) (cs : Chars) : Bool :=
  match cs with
  | x :: y :: z :: rest =>
    x.column == 0 && x.char == c && y.char == c && z.char == c && atGap rest
  | _ => false

/-- Whether a mark between documents stands at the head. -/
def startsMark (cs : Chars) : Bool := startsLineWith '-' cs || startsLineWith '.' cs

/-- What stands behind the blanks and the comment that end a line, and behind the line's break;
`none` if there is anything else on the line. -/
def afterLine? (cs : Chars) : Option Chars :=
  let rest : Chars := cs.dropWhile Character.isBlank
  let rest : Chars := if rest.startsWith '#' then rest.dropWhile (!·.endsLine) else rest
  if rest.atLineEnd then some (rest.drop 1) else none

end Chars

end AgentConvert.Yaml
