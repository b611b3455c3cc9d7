import AgentConvert.Unicode.BinaryProperty

/-!
# Quoted text

How a text is shown inside a message: between double quotes, with short escapes for the quote, the
backslash and the usual controls, and the code point in hexadecimal for every other character that
a reader would not see: controls, unassigned and private code points, separators and format
characters, and marks that attach to the character before them.
-/

namespace AgentConvert.Text

open Unicode

/-- Whether `c` is shown as itself: ASCII from the space to the tilde, and beyond it what neither is
a separator or no character nor attaches to the character before it. -/
def isPrintable (c : Char) : Bool :=
  if c.toNat < 0x7f then 0x20 ≤ c.toNat
  else !(Category.codes (Category.separators ++ Category.others)).contains c.toNat &&
    !BinaryProperty.graphemeExtend.codes.contains c.toNat

/-- How one character is shown between quotes. -/
def quotedChar (c : Char) : String :=
  match c with
  | '"' => "\\\""
  | '\\' => "\\\\"
  | '\n' => "\\n"
  | '\r' => "\\r"
  | '\t' => "\\t"
  | '\x00' => "\\0"
  | c =>
    if isPrintable c then String.singleton c
    else "\\u\x7b" ++ String.ofList (Nat.toDigits 16 c.toNat) ++ "\x7d"

/-- `s` between double quotes, fit to stand on one line. -/
def quoted (s : String) : String :=
  "\"" ++ String.join (s.toList.map quotedChar) ++ "\""

end AgentConvert.Text
