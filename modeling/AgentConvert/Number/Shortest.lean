import AgentConvert.Number.Binary64

/-!
# Shortest decimals

The text of a binary number: the fewest decimal digits that read back as it, nearest to it among
those. `Binary64.text` is in positional notation, as documents have it; messages show a number with
a point, and some with an exponent.
-/

namespace AgentConvert

/-- The numbers that round to a magnitude: all between `low / den` and `high / den`, the ends
included when `closed`. -/
structure Rounding where
  low : Nat
  value : Nat
  high : Nat
  den : Nat
  closed : Bool

/-- The numbers that round to `x`. Below a power of two the next magnitude is half as far. -/
def Magnitude.rounding (x : Magnitude) : Rounding :=
  let below := if x.mantissa == 1 <<< 52 && x.exponent > -1074 then 1 else 2
  let scale (n : Nat) : Nat := (dividePow2 n 4 (-x.exponent)).1
  { low := scale (4 * x.mantissa - below)
    value := scale (4 * x.mantissa)
    high := scale (4 * x.mantissa + 2)
    den := (dividePow2 x.mantissa 4 (-x.exponent)).2
    closed := x.mantissa % 2 == 0 }

namespace Rounding

/-- Whether `n * unit / per` rounds to the magnitude. -/
def contains (r : Rounding) (n unit per : Nat) : Bool :=
  let point := n * unit * r.den
  if r.closed then r.low * per ≤ point && point ≤ r.high * per
  else r.low * per < point && point < r.high * per

/-- The point of the grid `unit / per` that rounds to the magnitude and is nearest to it: one of
the value's two neighbours, if any. -/
def onGrid? (r : Rounding) (unit per : Nat) : Option Nat :=
  let below := r.value * per / (r.den * unit)
  let above := below + 1
  match r.contains below unit per, r.contains above unit per with
  | true, true =>
    let downward := r.value * per - below * unit * r.den
    let upward := above * unit * r.den - r.value * per
    some (if downward < upward || (downward == upward && below % 2 == 0) then below else above)
  | true, false => some below
  | false, true => some above
  | false, false => none

/-- The exponent of ten that is the first place of the value. -/
def place (r : Rounding) : Int :=
  let guess : Int := (digitCount r.value : Int) - digitCount r.den
  if r.value * powerOfTen (-guess).toNat ≥ r.den * powerOfTen guess.toNat then guess else guess - 1

/-- Digits and exponent of ten of the shortest decimal that rounds to the magnitude. -/
def shortest (r : Rounding) : Nat × Int :=
  let attempt (n : Nat) : Option (Nat × Int) :=
    let exponent := r.place - n
    (r.onGrid? (powerOfTen exponent.toNat) (powerOfTen (-exponent).toNat)).map (·, exponent)
  ((List.range 18).findSome? attempt).getD (0, 0)

end Rounding

/-- Digits `n` with the point moved by `exponent` places, without digits that say nothing. -/
def positional (n : Nat) (exponent : Int) : String :=
  let digits := Nat.toDigits 10 n
  if exponent ≥ 0 then String.ofList (digits ++ List.replicate exponent.toNat '0')
  else
    let places := (-exponent).toNat
    let padded := List.replicate (places + 1 - digits.length) '0' ++ digits
    let cut := padded.length - places
    let fraction := ((padded.drop cut).reverse.dropWhile (· == '0')).reverse
    String.ofList (padded.take cut ++ if fraction.isEmpty then [] else '.' :: fraction)

/-- The shortest decimal of a number, in positional notation: whole numbers have no point, and zero
keeps its sign. -/
def Binary64.text : Binary64 → String
  | .finite negative x =>
    let sign := if negative then "-" else ""
    if x.mantissa == 0 then sign ++ "0"
    else sign ++ positional x.rounding.shortest.1 x.rounding.shortest.2
  | .infinite negative => if negative then "-inf" else "inf"
  | .nan => "NaN"

/-- `n` without the zeros at its end, and how many there were. -/
def dropZeros (n : Nat) : Nat × Nat :=
  let digits := Nat.toDigits 10 n
  let zeros := (digits.reverse.takeWhile (· == '0')).length
  (n / powerOfTen zeros, zeros)

/-- `text` with a point and a zero unless it has a point. -/
def withPoint (text : String) : String :=
  if text.toList.contains '.' then text else text ++ ".0"

/-- The shortest decimal of a number, in positional notation and always with a point. -/
def Binary64.pointedText (x : Binary64) : String := if x.isFinite then withPoint x.text else x.text

/-- The shortest decimal of a number, with a point or an exponent: the exponent from `10 ^ 16` on
and below `10 ^ -5`. -/
def Binary64.exponentText : Binary64 → String
  | .finite negative x =>
    if x.mantissa == 0 then if negative then "-0.0" else "0.0"
    else
      let (n, zeros) := dropZeros x.rounding.shortest.1
      let exponent := x.rounding.shortest.2 + zeros
      let digits := Nat.toDigits 10 n
      let place := exponent + digits.length
      (if negative then "-" else "") ++
        if -5 < place && place ≤ 16 then withPoint (positional n exponent)
        else
          let fraction := digits.drop 1
          String.ofList (digits.take 1 ++ if fraction.isEmpty then [] else '.' :: fraction) ++
            "e" ++ toString (place - 1)
  | x => x.text

end AgentConvert
