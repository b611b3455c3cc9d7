/-!
# Digits

The whole number that a run of digits spells. Main statement: digits behind others move those up by
one place each (`natOfDigits_append`).
-/

namespace AgentConvert

/-- The value of a one with so many zeros behind it. -/
def powerOfTen (zeros : Nat) : Nat := Nat.pow 10 zeros

@[simp] theorem powerOfTen_zero : powerOfTen 0 = 1 := rfl

theorem powerOfTen_succ (zeros : Nat) : powerOfTen (zeros + 1) = powerOfTen zeros * 10 := rfl

/-- The value of a run of decimal digits. -/
def natOfDigits (cs : List Char) : Nat :=
  cs.foldl (fun n c => 10 * n + (c.toNat - '0'.toNat)) 0

theorem foldl_digits (cs : List Char) (n : Nat) :
    cs.foldl (fun n c => 10 * n + (c.toNat - '0'.toNat)) n =
      n * powerOfTen cs.length + natOfDigits cs := by
  induction cs generalizing n with
  | nil => simp [natOfDigits]
  | cons c rest ih =>
    rw [natOfDigits, List.foldl_cons, List.foldl_cons, ih, ih (10 * 0 + _), List.length_cons,
      powerOfTen_succ]
    grind

theorem natOfDigits_append (xs ys : List Char) :
    natOfDigits (xs ++ ys) = natOfDigits xs * powerOfTen ys.length + natOfDigits ys := by
  rw [natOfDigits, List.foldl_append, foldl_digits ys, ← natOfDigits]

/-- Whether `c` is a hexadecimal digit. -/
def isHexDigit (c : Char) : Bool :=
  c.isDigit || ('a' ≤ c && c ≤ 'f') || ('A' ≤ c && c ≤ 'F')

/-- The value of a run of hexadecimal digits. -/
def natOfHexDigits (cs : List Char) : Nat :=
  cs.foldl (fun n c => 16 * n + (if c.isDigit then c.toNat - 48 else c.toLower.toNat - 87)) 0

end AgentConvert
