import AgentConvert.Number.Wide
import AgentConvert.Text.Blank

/-!
# Durations

Lengths of time in whole nanoseconds: read from the spellings of configuration files (`15s`,
`1m30s`, `500ms`, `1d`) and written the way documents spell them (`1m30s`, `1h0m0s`, `1.5s`). They
are read in numbers of 128 bits.
-/

namespace AgentConvert

/-- A length of time in nanoseconds. -/
structure Duration where
  nanos : Nat
  deriving DecidableEq, Inhabited

namespace Duration

/-- Why a text is not a duration. -/
inductive Fault where
  | empty
  | noNumber
  | noUnit
  | unknownUnit
  | outOfRange
  deriving DecidableEq

/-- What is wrong, in words. -/
def Fault.reason : Fault → String
  | empty => "empty string"
  | noNumber => "expected a number"
  | noUnit => "missing unit"
  | unknownUnit => "unknown unit"
  | outOfRange => "value out of range"

/-- The message for a text that is not a duration. -/
def Fault.message (input : String) (fault : Fault) : String :=
  "invalid duration '" ++ input ++ "': " ++ fault.reason

def ofMillis (n : Nat) : Duration := ⟨n * 1000000⟩
def ofSeconds (n : Nat) : Duration := ⟨n * 1000000000⟩

/-- The largest length that can be read, in nanoseconds. -/
def greatest : Nat := UInt64.size - 1

/-! ## Writing -/

/-- `whole` and the digits of `fraction / 10 ^ places` that say something. -/
def withFraction (whole fraction places : Nat) : List Char :=
  if fraction == 0 then Nat.toDigits 10 whole
  else
    let digits := Nat.toDigits 10 fraction
    let padded := List.replicate (places - digits.length) '0' ++ digits
    Nat.toDigits 10 whole ++ '.' :: Text.dropEndWhile (· == '0') padded

/-- The length as documents write it: one unit below a second, above it hours, minutes and seconds
from the first that is not zero. -/
def chars (d : Duration) : List Char :=
  let n := d.nanos
  if n == 0 then ['0', 's']
  else if n < 1000 then Nat.toDigits 10 n ++ ['n', 's']
  else if n < 1000000 then withFraction (n / 1000) (n % 1000) 3 ++ ['µ', 's']
  else if n < 1000000000 then withFraction (n / 1000000) (n % 1000000) 6 ++ ['m', 's']
  else
    let seconds := n / 1000000000
    let hours := seconds / 3600
    let minutes := seconds % 3600 / 60
    (if hours > 0 then Nat.toDigits 10 hours ++ ['h'] else []) ++
    (if hours > 0 || minutes > 0 then Nat.toDigits 10 minutes ++ ['m'] else []) ++
    withFraction (seconds % 60) (n % 1000000000) 9 ++ ['s']

/-- The text of a duration. -/
def text (d : Duration) : String := String.ofList d.chars

/-! ## Reading -/

/-- Nanoseconds of a unit. -/
def unitNanos? (unit : List Char) : Option Wide :=
  match String.ofList unit with
  | "ns" => some 1
  | "us" | "µs" | "μs" => some 1000
  | "ms" => some 1000000
  | "s" => some 1000000000
  | "m" => some 60000000000
  | "h" => some 3600000000000
  | "d" => some 86400000000000
  | "w" => some 604800000000000
  | "y" => some 31536000000000000
  | _ => none

/-- Nanoseconds of `whole.fraction` units, what is below a nanosecond cut off. Of the fraction the
first 20 digits are read, which leaves room for the product with any unit. -/
def componentNanos? (whole fraction : List Char) (unit : Wide) : Option Wide := do
  let number ← Wide.ofDigits? whole
  let nanos ← number.mul? unit
  let read := fraction.take 20
  if read.isEmpty then some nanos
  else do
    let digits ← Wide.ofDigits? read
    nanos.add? (digits * unit / Wide.powerOfTen read.length)

/-- A number and its unit. -/
structure Component where
  whole : List Char
  fraction : List Char
  unit : List Char

/-- The digits behind a point at the head of `cs`, and what follows them. Without a point there are
none. -/
def splitFraction : List Char → List Char × List Char
  | '.' :: rest => (rest.takeWhile Char.isDigit, rest.dropWhile Char.isDigit)
  | cs => ([], cs)

/-- Whether a unit goes on with `c`: it runs to the next digit or point. -/
def inUnit (c : Char) : Bool := !(c.isDigit || c == '.')

/-- Splits the component at the head of `cs` from what follows it. -/
def Component.split (cs : List Char) : Component × List Char :=
  let number := splitFraction (cs.dropWhile Char.isDigit)
  (⟨cs.takeWhile Char.isDigit, number.1, number.2.takeWhile inUnit⟩, number.2.dropWhile inUnit)

theorem length_splitFraction_le (cs : List Char) : (splitFraction cs).2.length ≤ cs.length := by
  unfold splitFraction
  split
  · rename_i rest
    exact Nat.le_succ_of_le (Text.length_dropWhile_le Char.isDigit rest)
  · exact Nat.le_refl _

theorem length_dropWhile_lt {α : Type} (p : α → Bool) (l : List α) (h : l.takeWhile p ≠ []) :
    (l.dropWhile p).length < l.length := by
  have e := congrArg List.length (List.takeWhile_append_dropWhile (p := p) (l := l))
  have n := List.length_pos_iff.2 h
  rw [List.length_append] at e
  omega

/-- A component with a unit is not empty, so what follows it is shorter. -/
theorem Component.split_length {cs : List Char} (h : (split cs).1.unit ≠ []) :
    (split cs).2.length < cs.length := by
  have hwhole := Text.length_dropWhile_le Char.isDigit cs
  have hfraction := length_splitFraction_le (cs.dropWhile Char.isDigit)
  have hunit := length_dropWhile_lt inUnit _ h
  exact Nat.lt_of_lt_of_le hunit (Nat.le_trans hfraction hwhole)

/-- Adds the components of `cs` to `total`. -/
def sumComponents (total : Wide) (cs : List Char) : Except Fault Wide :=
  if cs.isEmpty then .ok total
  else
    let component := (Component.split cs).1
    if component.whole.isEmpty && component.fraction.isEmpty then .error .noNumber
    else if _h : component.unit = [] then .error .noUnit
    else match unitNanos? component.unit with
      | none => .error .unknownUnit
      | some unit =>
        let nanos := componentNanos? component.whole component.fraction unit
        match (nanos.bind total.add?).filter (·.toNat ≤ greatest) with
        | none => .error .outOfRange
        | some total => sumComponents total (Component.split cs).2
  termination_by cs.length
  decreasing_by exact Component.split_length _h

/-- Reads a duration; blanks at the ends are ignored, and `0` needs no unit. -/
def read (input : String) : Except Fault Duration :=
  let cs := Text.trimChars input.toList
  if cs == ['0'] then .ok ⟨0⟩
  else if cs.isEmpty then .error .empty
  else (sumComponents 0 cs).map fun total => ⟨total.toNat⟩

end Duration

end AgentConvert
