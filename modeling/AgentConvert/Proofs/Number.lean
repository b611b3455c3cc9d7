import AgentConvert.Value.Scalar
import Mathlib.Tactic.Ring

/-!
# Whole numbers in binary floating point

Every whole number of at most 64 bits has a nearest number that is finite
(`Binary64.isFinite_ofInt`). Of the three exponents that are tried the least is always too small;
the next one fits unless rounding carries into a 54th bit, and then the last one fits.
-/

namespace AgentConvert

/-! ## Rounding -/

/-- Whether rounding reaches a whole number: from half a unit below it, and from just there if it is
even. -/
theorem le_roundHalfEven_iff_mul {num den n : Nat} (hden : 0 < den) :
    n ≤ roundHalfEven num den ↔
      2 * n * den < 2 * num + den ∨ 2 * n * den = 2 * num + den ∧ n % 2 = 0 := by
  have hnum : num = den * (num / den) + num % den := (Nat.div_add_mod num den).symm
  have hlt : num % den < den := Nat.mod_lt num hden
  unfold roundHalfEven
  dsimp only
  generalize num / den = low at hnum ⊢
  generalize num % den = rest at hnum hlt ⊢
  subst hnum
  rcases Nat.lt_trichotomy n (low + 1) with hn | rfl | hn
  · have hmul : n * den ≤ low * den := Nat.mul_le_mul_right den (Nat.lt_succ_iff.1 hn)
    have hleft : 2 * n * den < 2 * (den * low + rest) + den := by
      rw [Nat.mul_assoc, Nat.mul_comm den low]
      omega
    refine iff_of_true ?_ (.inl hleft)
    split <;> omega
  · have hexpand : 2 * (low + 1) * den = 2 * (den * low) + 2 * den := by ring
    rw [hexpand]
    split <;> rename_i h <;>
      simp only [Bool.or_eq_true, Bool.and_eq_true, decide_eq_true_eq, beq_iff_eq] at h <;> omega
  · have hmul : (low + 2) * den ≤ n * den := Nat.mul_le_mul_right den hn
    have hexpand : (low + 2) * den = den * low + 2 * den := by ring
    rw [Nat.mul_assoc]
    refine iff_of_false ?_ ?_
    · split <;> omega
    · omega

theorem le_roundHalfEven {num den m : Nat} (h : m * den ≤ num) (hd : 0 < den) :
    m ≤ roundHalfEven num den := by
  refine (le_roundHalfEven_iff_mul hd).2 (.inl ?_)
  rw [Nat.mul_assoc]
  omega

theorem roundHalfEven_le {num den m : Nat} (h : num < m * den) (hd : 0 < den) :
    roundHalfEven num den ≤ m := by
  refine Nat.le_of_not_lt fun hlt => ?_
  have hnext := (le_roundHalfEven_iff_mul hd).1 (Nat.succ_le_of_lt hlt)
  rw [Nat.succ_eq_add_one, Nat.mul_assoc, Nat.add_mul] at hnext
  omega

theorem roundHalfEven_one (num : Nat) : roundHalfEven num 1 = num := by
  simp [roundHalfEven, Nat.mod_one]

/-- The half of what is rounded to `2 * m` or above is rounded to `m` or above. -/
theorem le_roundHalfEven_half {num den m : Nat} (h : 2 * m ≤ roundHalfEven num den)
    (hd : 0 < den) : m ≤ roundHalfEven num (den * 2) := by
  have hreached := (le_roundHalfEven_iff_mul hd).1 h
  refine (le_roundHalfEven_iff_mul (Nat.mul_pos hd Nat.two_pos)).2 (.inl ?_)
  have hsame : 2 * (2 * m) * den = 2 * m * (den * 2) := by ring
  omega

/-! ## Whole numbers -/

/-- The mantissa that the quotient is rounded to with the exponent. -/
def roundedMantissa (num den : Nat) (e : Int) : Nat :=
  roundHalfEven (dividePow2 num den e).1 (dividePow2 num den e).2

theorem roundedMantissa_ofNat (n k : Nat) : roundedMantissa n 1 k = roundHalfEven n (1 <<< k) := by
  simp [roundedMantissa, dividePow2]

theorem roundedMantissa_neg (n k : Nat) : roundedMantissa n 1 (-k) = n <<< k := by
  simp [roundedMantissa, dividePow2, roundHalfEven_one]

/-- The first of the exponents whose mantissa fits is taken. -/
theorem nearestBinary_eq {n : Nat} {start : Int}
    (hstart : (n.log2 : Int) - 53 = start) (hfirst : 1 <<< 53 ≤ roundedMantissa n 1 start) :
    nearestBinary 53 (-1074) n 1 =
      if roundedMantissa n 1 (start + 1) < 1 <<< 53 then
        some (roundedMantissa n 1 (start + 1), start + 1)
      else if roundedMantissa n 1 (start + 2) < 1 <<< 53 then
        some (roundedMantissa n 1 (start + 2), start + 2)
      else none := by
  have hone : Nat.log2 1 = 0 := by decide
  have hmax : max ((n.log2 : Int) - (Nat.log2 1 : Int) - (53 : Nat)) (-1074) = start := by
    rw [hone]
    omega
  unfold nearestBinary
  dsimp only
  rw [hmax]
  show List.findSome?
    (fun e => if roundedMantissa n 1 e < 1 <<< 53 then some (roundedMantissa n 1 e, e) else none)
    [start, start + 1, start + 2] = _
  rw [List.findSome?_cons, if_neg (Nat.not_lt.2 hfirst), List.findSome?_cons]
  dsimp only
  by_cases hsecond : roundedMantissa n 1 (start + 1) < 1 <<< 53
  · rw [if_pos hsecond, if_pos hsecond]
  · rw [if_neg hsecond, if_neg hsecond, List.findSome?_cons]
    by_cases hthird : roundedMantissa n 1 (start + 2) < 1 <<< 53
    · rw [if_pos hthird]
    · rw [if_neg hthird]
      rfl

/-- A number with no more bits than a mantissa is not rounded. -/
theorem nearestBinary_small {n j : Nat} (hpos : n ≠ 0) (hj : n.log2 + j = 52) :
    nearestBinary 53 (-1074) n 1 = some (n <<< j, -(j : Int)) ∧ 1 <<< 52 ≤ n <<< j ∧
      n <<< j < 1 <<< 53 := by
  have hlow : 1 <<< 52 ≤ n <<< j := calc
    1 <<< 52 = 2 ^ n.log2 * 2 ^ j := by rw [← Nat.pow_add, hj, Nat.one_shiftLeft]
    _ ≤ n * 2 ^ j := Nat.mul_le_mul_right _ (Nat.log2_self_le hpos)
    _ = n <<< j := (Nat.shiftLeft_eq n j).symm
  have hhigh : n <<< j < 1 <<< 53 := calc
    n <<< j = n * 2 ^ j := Nat.shiftLeft_eq n j
    _ < 2 ^ (n.log2 + 1) * 2 ^ j :=
      Nat.mul_lt_mul_of_pos_right Nat.lt_log2_self (Nat.two_pow_pos j)
    _ = 1 <<< 53 := by rw [← Nat.pow_add, Nat.add_right_comm, hj, Nat.one_shiftLeft]
  have hfirst : 1 <<< 53 ≤ roundedMantissa n 1 (-((j + 1 : Nat) : Int)) := by
    rw [roundedMantissa_neg, Nat.shiftLeft_succ n j]
    omega
  have hnext : -((j + 1 : Nat) : Int) + 1 = -(j : Int) := by omega
  refine ⟨?_, hlow, hhigh⟩
  rw [nearestBinary_eq (by omega) hfirst, hnext, roundedMantissa_neg, if_pos hhigh]

theorem shiftLeft_pos (k : Nat) : 0 < 1 <<< k := by
  rw [Nat.one_shiftLeft]
  exact Nat.two_pow_pos k

/-- One more place halves the mantissa, up to rounding. -/
theorem le_roundedMantissa_succ {n k : Nat} (h : 1 <<< 53 ≤ roundedMantissa n 1 (k : Int)) :
    1 <<< 52 ≤ roundedMantissa n 1 ((k + 1 : Nat) : Int) := by
  rw [roundedMantissa_ofNat] at h ⊢
  rw [Nat.shiftLeft_succ 1 k, Nat.mul_comm 2]
  exact le_roundHalfEven_half (show 2 * 1 <<< 52 ≤ _ from h) (shiftLeft_pos k)

/-- A number with more bits is rounded to a mantissa with the first bit set. -/
theorem nearestBinary_large {n k : Nat} (hk : n.log2 = k + 53) :
    ∃ m e, nearestBinary 53 (-1074) n 1 = some (m, e) ∧ 1 <<< 52 ≤ m ∧ m < 1 <<< 53 ∧
      0 ≤ e ∧ e ≤ k + 2 := by
  have hpos : n ≠ 0 := by
    rintro rfl
    simp at hk
  have hlow : 1 <<< 53 * 1 <<< k ≤ n := by
    rw [Nat.one_shiftLeft, Nat.one_shiftLeft, ← Nat.pow_add, Nat.add_comm, ← hk]
    exact Nat.log2_self_le hpos
  have hhigh : n < 1 <<< 52 * 1 <<< (k + 2) := by
    have hlt := Nat.lt_log2_self (n := n)
    rw [hk] at hlt
    rwa [Nat.one_shiftLeft, Nat.one_shiftLeft, ← Nat.pow_add, Nat.add_comm 52]
  have hfirst : 1 <<< 53 ≤ roundedMantissa n 1 (k : Int) := by
    rw [roundedMantissa_ofNat]
    exact le_roundHalfEven hlow (shiftLeft_pos k)
  have hthird : roundedMantissa n 1 ((k + 2 : Nat) : Int) ≤ 1 <<< 52 := by
    rw [roundedMantissa_ofNat]
    exact roundHalfEven_le hhigh (shiftLeft_pos _)
  rw [nearestBinary_eq (by omega) hfirst]
  by_cases hfits : roundedMantissa n 1 ((k + 1 : Nat) : Int) < 1 <<< 53
  · exact ⟨_, _, if_pos hfits, le_roundedMantissa_succ hfirst, hfits, by omega, by omega⟩
  · have hcarried := le_roundedMantissa_succ (Nat.not_lt.1 hfits)
    have hlt : roundedMantissa n 1 ((k + 2 : Nat) : Int) < 1 <<< 53 := by omega
    exact ⟨_, _, (if_neg hfits).trans (if_pos hlt), hcarried, hlt, by omega, by omega⟩

theorem Magnitude.isSome_ofQuotient? {n : Nat} (hn : n < 1 <<< 64) :
    (ofQuotient? n 1).isSome = true := by
  by_cases hpos : n = 0
  · subst hpos
    rfl
  · rw [Nat.one_shiftLeft] at hn
    have hlog : n.log2 < 64 := (Nat.log2_lt hpos).2 hn
    obtain ⟨m, e, heq, hm, hm', he, he'⟩ : ∃ m e, nearestBinary 53 (-1074) n 1 = some (m, e) ∧
        1 <<< 52 ≤ m ∧ m < 1 <<< 53 ∧ -52 ≤ e ∧ e ≤ 12 := by
      by_cases hbits : n.log2 ≤ 52
      · obtain ⟨heq, hlow, hhigh⟩ := nearestBinary_small (j := 52 - n.log2) hpos (by omega)
        exact ⟨_, _, heq, hlow, hhigh, by omega, by omega⟩
      · obtain ⟨m, e, heq, hlow, hhigh, he, he'⟩ :=
          nearestBinary_large (n := n) (k := n.log2 - 53) (by omega)
        exact ⟨m, e, heq, hlow, hhigh, by omega, by omega⟩
    rw [ofQuotient?, if_neg (by simpa using hpos), heq]
    dsimp only
    rw [dif_pos ⟨hm', by omega, by omega, .inl hm⟩]
    rfl

theorem Binary64.isFinite_ofInt {n : Int} (h : Scalar.fitsIn 64 n = true) :
    (ofInt n).isFinite = true := by
  simp only [Scalar.fitsIn, Bool.and_eq_true, decide_eq_true_eq] at h
  have hn : n.natAbs < 1 <<< 64 := by omega
  obtain ⟨x, hx⟩ := Option.isSome_iff_exists.1 (Magnitude.isSome_ofQuotient? hn)
  rw [ofInt, ofQuotient, hx]
  rfl

end AgentConvert
