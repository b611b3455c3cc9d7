import AgentConvert.Number.Digits

/-!
# Binary floating point

The 64-bit format by its values: a sign and a magnitude `mantissa * 2 ^ exponent` in the one form
that uses every bit, or an infinity, or no number. Reading a decimal rounds its exact value to the
nearest magnitude, a tie going to the even mantissa, so nothing here depends on a machine's own
arithmetic.
-/

namespace AgentConvert

/-- The magnitude `mantissa * 2 ^ exponent`: 53 bits with the first one set, unless the exponent is
the least one. -/
structure Magnitude where
  mantissa : Nat
  exponent : Int
  canonical : mantissa < 1 <<< 53 ∧ -1074 ≤ exponent ∧ exponent ≤ 971 ∧
    (1 <<< 52 ≤ mantissa ∨ exponent = -1074)
  deriving DecidableEq

/-- A number of the 64-bit format. -/
inductive Binary64 where
  | finite (negative : Bool) (magnitude : Magnitude)
  | infinite (negative : Bool)
  | nan
  deriving DecidableEq

/-- The whole number nearest to `num / den`; of two, the even one. -/
def roundHalfEven (num den : Nat) : Nat :=
  let low := num / den
  let double := 2 * (num % den)
  if double < den || (double == den && low % 2 == 0) then low else low + 1

/-- The quotient `num / den / 2 ^ e`, as a numerator and a denominator. -/
def dividePow2 (num den : Nat) (e : Int) : Nat × Nat :=
  (num <<< (-e).toNat, den <<< e.toNat)

/-- The mantissa of at most `precision` bits and the exponent, `least` or above, of the number
nearest to `num / den`. The binary logarithms leave three exponents to try. -/
def nearestBinary (precision : Nat) (least : Int) (num den : Nat) : Option (Nat × Int) :=
  let start := max ((num.log2 : Int) - (den.log2 : Int) - (precision : Int)) least
  [start, start + 1, start + 2].findSome? fun e =>
    let scaled := dividePow2 num den e
    let m := roundHalfEven scaled.1 scaled.2
    if m < 1 <<< precision then some (m, e) else none

namespace Magnitude

/-- The magnitude of zero. -/
def zero : Magnitude := ⟨0, -1074, by decide⟩

instance : Inhabited Magnitude := ⟨zero⟩

/-- The magnitude nearest to `num / den`, unless that is above the largest one. -/
def ofQuotient? (num den : Nat) : Option Magnitude :=
  if num == 0 then some zero
  else match nearestBinary 53 (-1074) num den with
    | none => none
    | some (m, e) =>
      if h : m < 1 <<< 53 ∧ -1074 ≤ e ∧ e ≤ 971 ∧ (1 <<< 52 ≤ m ∨ e = -1074) then some ⟨m, e, h⟩
      else none

/-- The value, as a numerator and a denominator. -/
def quotient (x : Magnitude) : Nat × Nat := dividePow2 x.mantissa 1 (-x.exponent)

end Magnitude

/-- The number of decimal digits of `n`; zero has one. -/
def digitCount (n : Nat) : Nat := (Nat.toDigits 10 n).length

namespace Binary64

/-- Zero. -/
def zero : Binary64 := .finite false .zero

instance : Inhabited Binary64 := ⟨zero⟩

/-- Whether the number is neither an infinity nor no number. -/
def isFinite : Binary64 → Bool
  | finite .. => true
  | _ => false

/-- The number nearest to `num / den`, with the given sign. -/
def ofQuotient (negative : Bool) (num den : Nat) : Binary64 :=
  match Magnitude.ofQuotient? num den with
  | some x => finite negative x
  | none => infinite negative

/-- The number nearest to `digits * 10 ^ exponent`. Beyond 400 places to either side of the point
every answer is an infinity or zero. -/
def ofDecimal (negative : Bool) (digits : Nat) (exponent : Int) : Binary64 :=
  let place := exponent + digitCount digits
  if digits == 0 || place < -400 then finite negative .zero
  else if place > 400 then infinite negative
  else ofQuotient negative (digits * powerOfTen exponent.toNat) (powerOfTen (-exponent).toNat)

/-- The number nearest to a whole number. -/
def ofInt (n : Int) : Binary64 := ofQuotient (n < 0) n.natAbs 1

/-- The number after rounding to the 32-bit format: 24 bits of mantissa, exponents from -149 to
104. -/
def toBinary32 : Binary64 → Binary64
  | finite negative x =>
    match nearestBinary 24 (-149) x.quotient.1 x.quotient.2 with
    | some (m, e) =>
      if e ≤ 104 then
        ofQuotient negative (dividePow2 m 1 (-e)).1 (dividePow2 m 1 (-e)).2
      else infinite negative
    | none => infinite negative
  | x => x

end Binary64

/-! ## Reading -/

/-- A sign at the head of `cs`, `true` for minus, and what follows it. -/
def takeSign : List Char → Bool × List Char
  | '-' :: rest => (true, rest)
  | '+' :: rest => (false, rest)
  | cs => (false, cs)

/-- The whole number that `cs` spells after an optional sign. -/
def readExponent? (cs : List Char) : Option Int :=
  let (negative, digits) := takeSign cs
  if digits.isEmpty || !digits.all Char.isDigit then none
  else some (if negative then -(natOfDigits digits : Int) else natOfDigits digits)

/-- Reads digits with an optional point and an optional exponent; one digit at least must stand
before or behind the point. -/
def readDecimal? (negative : Bool) (cs : List Char) : Option Binary64 :=
  let whole := cs.takeWhile Char.isDigit
  let rest := cs.dropWhile Char.isDigit
  let (fraction, rest) := match rest with
    | '.' :: rest => (rest.takeWhile Char.isDigit, rest.dropWhile Char.isDigit)
    | rest => ([], rest)
  if whole.isEmpty && fraction.isEmpty then none
  else
    let value (exponent : Int) :=
      Binary64.ofDecimal negative (natOfDigits (whole ++ fraction)) (exponent - fraction.length)
    match rest with
    | [] => some (value 0)
    | c :: rest => if c == 'e' || c == 'E' then (readExponent? rest).map value else none

/-- Reads a number: a decimal, or the words for the infinities and for no number in any mix of
cases, after an optional sign. -/
def Binary64.read? (s : String) : Option Binary64 :=
  let (negative, cs) := takeSign s.toList
  let word := String.ofList (cs.map Char.toLower)
  if word == "inf" || word == "infinity" then some (.infinite negative)
  else if word == "nan" then some .nan
  else readDecimal? negative cs

end AgentConvert
