import AgentConvert.Unicode.BinaryProperty

/-!
# Letters and digits

Alphabetic and numeric characters.
-/

namespace AgentConvert.Text

open Unicode

/-- Whether `c` is alphabetic. -/
def isAlphabetic (c : Char) : Bool :=
  c.isAlpha || BinaryProperty.alphabetic.codes.contains c.toNat

/-- Whether `c` is alphabetic or numeric. -/
def isAlphanumeric (c : Char) : Bool :=
  isAlphabetic c || (Category.codes Category.numbers).contains c.toNat

end AgentConvert.Text
