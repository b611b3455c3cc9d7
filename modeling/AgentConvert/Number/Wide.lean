import AgentConvert.Number.Digits

/-!
# Numbers of 128 bits

Whole numbers of 128 bits, with sums, products and spelled digits that are refused where they take
more. Main statement: digits spell the number that they have without a limit, or are refused if it
takes more than 128 bits (`Wide.ofDigits?_eq`).
-/

namespace AgentConvert

/-- A whole number of 128 bits. -/
abbrev Wide := BitVec 128

namespace Wide

/-- How many numbers of 128 bits there are. -/
def size : Nat := UInt64.size * UInt64.size

theorem toNat_lt (a : Wide) : a.toNat < size := a.isLt

/-- The number, unless it takes more than 128 bits. -/
def ofNat? (n : Nat) : Option Wide := if n < size then some (BitVec.ofNat 128 n) else none

theorem toNat_ofNat {n : Nat} (h : n < size) : (BitVec.ofNat 128 n).toNat = n :=
  Nat.mod_eq_of_lt h

theorem ofNat?_eq_some {n : Nat} {a : Wide} : ofNat? n = some a ↔ a.toNat = n := by
  unfold ofNat?
  constructor
  · intro h
    split at h
    · rename_i hn
      rw [← Option.some.inj h, toNat_ofNat hn]
    · exact absurd h (by simp)
  · rintro rfl
    rw [if_pos a.toNat_lt, BitVec.ofNat_toNat, BitVec.setWidth_eq]

@[simp] theorem ofNat?_toNat (a : Wide) : ofNat? a.toNat = some a := ofNat?_eq_some.2 rfl

theorem ofNat?_eq_none {n : Nat} : ofNat? n = none ↔ size ≤ n := by
  simp [ofNat?]

/-! ## Arithmetic -/

/-- The sum, unless it takes more than 128 bits. -/
def add? (a b : Wide) : Option Wide := if a.uaddOverflow b then none else some (a + b)

/-- The product, unless it takes more than 128 bits. -/
def mul? (a b : Wide) : Option Wide := if a.umulOverflow b then none else some (a * b)

theorem add?_eq (a b : Wide) : a.add? b = ofNat? (a.toNat + b.toNat) := by
  have hoverflow : a.uaddOverflow b = true ↔ size ≤ a.toNat + b.toNat := decide_eq_true_iff
  unfold add? ofNat?
  by_cases h : size ≤ a.toNat + b.toNat
  · rw [if_pos (hoverflow.2 h), if_neg (Nat.not_lt.2 h)]
  · rw [if_neg fun h' => h (hoverflow.1 h'), if_pos (Nat.not_le.1 h), BitVec.ofNat_add,
      BitVec.ofNat_toNat, BitVec.ofNat_toNat, BitVec.setWidth_eq, BitVec.setWidth_eq]

theorem mul?_eq (a b : Wide) : a.mul? b = ofNat? (a.toNat * b.toNat) := by
  have hoverflow : a.umulOverflow b = true ↔ size ≤ a.toNat * b.toNat := decide_eq_true_iff
  unfold mul? ofNat?
  by_cases h : size ≤ a.toNat * b.toNat
  · rw [if_pos (hoverflow.2 h), if_neg (Nat.not_lt.2 h)]
  · rw [if_neg fun h' => h (hoverflow.1 h'), if_pos (Nat.not_le.1 h), BitVec.ofNat_mul,
      BitVec.ofNat_toNat, BitVec.ofNat_toNat, BitVec.setWidth_eq, BitVec.setWidth_eq]

/-! ## Digits -/

/-- The number with one more digit at its end. -/
def push? (n : Wide) (c : Char) : Option Wide :=
  (mul? n 10).bind fun tens => add? tens (BitVec.ofNat 128 (c.toNat - '0'.toNat))

/-- The number that decimal digits spell, unless it takes more than 128 bits. -/
def ofDigits? (cs : List Char) : Option Wide := cs.foldlM push? 0

/-- A one with so many zeros behind it; what takes more than 128 bits is dropped. -/
def powerOfTen (zeros : Nat) : Wide := BitVec.ofNat 128 (AgentConvert.powerOfTen zeros)

theorem digit_lt_size (c : Char) : c.toNat - '0'.toNat < size := by
  have hc : c.toNat < UInt32.size := c.val.toNat_lt
  have hsize : UInt32.size ≤ size := by decide
  omega

theorem push?_eq (n : Wide) (c : Char) :
    n.push? c = ofNat? (10 * n.toNat + (c.toNat - '0'.toNat)) := by
  have hten : n.toNat * BitVec.toNat (10 : Wide) = 10 * n.toNat := Nat.mul_comm _ _
  rw [push?, mul?_eq, hten]
  cases htens : ofNat? (10 * n.toNat) with
  | none =>
    have hlarge := ofNat?_eq_none.1 htens
    exact (ofNat?_eq_none.2 (by omega)).symm
  | some tens =>
    rw [Option.bind_some, add?_eq, ofNat?_eq_some.1 htens, toNat_ofNat (digit_lt_size c)]

/-- Digits behind a number make it no smaller. -/
theorem le_foldl_digits (cs : List Char) (n : Nat) :
    n ≤ cs.foldl (fun n c => 10 * n + (c.toNat - '0'.toNat)) n := by
  induction cs generalizing n with
  | nil => exact Nat.le_refl n
  | cons c cs ih =>
    have hnext : n ≤ 10 * n + (c.toNat - '0'.toNat) := by omega
    exact Nat.le_trans hnext (ih _)

/-- Digits spell the number that they have without a limit. -/
theorem ofDigits?_eq (cs : List Char) : ofDigits? cs = ofNat? (natOfDigits cs) := by
  have hfold : ∀ n : Wide, cs.foldlM push? n =
      ofNat? (cs.foldl (fun n c => 10 * n + (c.toNat - '0'.toNat)) n.toNat) := by
    induction cs with
    | nil => exact fun n => n.ofNat?_toNat.symm
    | cons c cs ih =>
      intro n
      rw [List.foldlM_cons, List.foldl_cons, push?_eq]
      cases hnext : ofNat? (10 * n.toNat + (c.toNat - '0'.toNat)) with
      | none =>
        have hlarge := ofNat?_eq_none.1 hnext
        exact (ofNat?_eq_none.2 (Nat.le_trans hlarge (le_foldl_digits cs _))).symm
      | some next =>
        have hvalue := ofNat?_eq_some.1 hnext
        exact (ih next).trans (by rw [hvalue])
  exact hfold 0

end Wide

end AgentConvert
