import AgentConvert.Proofs.Number
import Mathlib.Algebra.Order.Field.Power
import Mathlib.Data.Rat.Cast.Order
import Mathlib.Tactic.FieldSimp
import Mathlib.Tactic.GCongr
import Mathlib.Tactic.Linarith
import Mathlib.Tactic.Positivity
import Mathlib.Tactic.Ring

/-!
# The nearest binary number

Which numbers are rounded to a magnitude: those that are no farther from it than half of the way to
the next one above and below, the ends included just if its mantissa is even
(`Magnitude.Attracts`). Whatever quotient is attracted by a magnitude has this magnitude for its
nearest one (`Magnitude.ofQuotient?_eq`) and no other quotient has
(`Magnitude.attracts_of_ofQuotient?`), and a decimal that is attracted is read as it
(`Binary64.ofDecimal_eq`).
-/

namespace AgentConvert

/-! ## Rounding to whole numbers -/

/-- A whole number is reached by rounding from half a unit below it, and from just there if it is
even. -/
theorem le_roundHalfEven_iff {num den n : Nat} (hden : 0 < den) :
    n ≤ roundHalfEven num den ↔
      (n : ℚ) - 1 / 2 < num / den ∨ (n : ℚ) - 1 / 2 = num / den ∧ n % 2 = 0 := by
  have hpos : (0 : ℚ) < den := by exact_mod_cast hden
  rw [le_roundHalfEven_iff_mul hden, lt_div_iff₀ hpos, eq_div_iff hpos.ne']
  refine or_congr ?_ (and_congr_left fun _ => ?_)
  · rw [← Nat.cast_lt (α := ℚ)]
    push_cast
    constructor <;> intro h <;> linarith
  · rw [← Nat.cast_inj (R := ℚ)]
    push_cast
    constructor <;> intro h <;> linarith

/-! ## Mantissas -/

theorem natCast_shiftLeft (n : Nat) (k : Nat) : ((n <<< k : Nat) : ℚ) = n * 2 ^ (k : ℤ) := by
  rw [Nat.shiftLeft_eq, zpow_natCast]
  push_cast
  rfl

theorem zpow_toNat_sub (e : Int) :
    (2 : ℚ) ^ ((-e).toNat : ℤ) / 2 ^ (e.toNat : ℤ) = 2 ^ (-e) := by
  rw [← zpow_sub₀ two_ne_zero]
  congr 1
  omega

theorem dividePow2_div (num den : Nat) (e : Int) :
    ((dividePow2 num den e).1 : ℚ) / (dividePow2 num den e).2 = num / den / 2 ^ e := by
  rw [dividePow2, natCast_shiftLeft, natCast_shiftLeft, mul_div_mul_comm, zpow_toNat_sub, zpow_neg,
    div_eq_mul_inv (num / den : ℚ)]

theorem dividePow2_snd_pos {den : Nat} (num : Nat) (hden : 0 < den) (e : Int) :
    0 < (dividePow2 num den e).2 := by
  show 0 < den <<< e.toNat
  rw [Nat.shiftLeft_eq]
  exact Nat.mul_pos hden (Nat.two_pow_pos _)

/-- Which quotients have a mantissa of `n` or more. -/
theorem le_roundedMantissa_iff {num den n : Nat} (hden : 0 < den) (e : Int) :
    n ≤ roundedMantissa num den e ↔
      ((n : ℚ) - 1 / 2) * 2 ^ e < num / den ∨
        ((n : ℚ) - 1 / 2) * 2 ^ e = num / den ∧ n % 2 = 0 := by
  have hpow : (0 : ℚ) < 2 ^ e := zpow_pos two_pos e
  rw [roundedMantissa, le_roundHalfEven_iff (dividePow2_snd_pos num hden e), dividePow2_div,
    lt_div_iff₀ hpow, eq_div_iff hpow.ne']

/-! ## What is attracted -/

namespace Magnitude

/-- How far down the magnitude attracts, in units of its last place: half of the way to the next
magnitude, which is nearer below a power of two. -/
def reach (x : Magnitude) : ℚ :=
  if x.mantissa = 2 ^ 52 ∧ -1074 < x.exponent then 1 / 4 else 1 / 2

/-- Whether the magnitude is the one that a number is rounded to. -/
structure Attracts (x : Magnitude) (q : ℚ) : Prop where
  lower : (x.mantissa - x.reach) * 2 ^ x.exponent < q ∨
    (x.mantissa - x.reach) * 2 ^ x.exponent = q ∧ x.mantissa % 2 = 0
  upper : q < (x.mantissa + 1 / 2) * 2 ^ x.exponent ∨
    q = (x.mantissa + 1 / 2) * 2 ^ x.exponent ∧ x.mantissa % 2 = 0

variable {x : Magnitude} {q : ℚ} {num den : Nat}

theorem mantissa_lt (x : Magnitude) : x.mantissa < 2 ^ 53 := by
  rw [← Nat.one_shiftLeft]
  exact x.canonical.1

theorem least_le_exponent (x : Magnitude) : -1074 ≤ x.exponent := x.canonical.2.1

theorem le_mantissa_of_lt (h : -1074 < x.exponent) : 2 ^ 52 ≤ x.mantissa := by
  rw [← Nat.one_shiftLeft]
  exact x.canonical.2.2.2.resolve_right (by omega)

theorem reach_le (x : Magnitude) : x.reach ≤ 1 / 2 := by
  unfold reach
  split <;> norm_num

/-- A quotient lies within one binary place of what its logarithms tell. -/
theorem zpow_log2_lt (hnum : num ≠ 0) (hden : 0 < den) :
    (2 : ℚ) ^ ((num.log2 : Int) - den.log2 - 1) < num / den ∧
      (num / den : ℚ) < 2 ^ ((num.log2 : Int) - den.log2 + 1) := by
  have hpos : (0 : ℚ) < den := by exact_mod_cast hden
  have hnumLow : (2 : ℚ) ^ (num.log2 : ℤ) ≤ num := by
    exact_mod_cast Nat.log2_self_le hnum
  have hnumHigh : (num : ℚ) < 2 ^ ((num.log2 : ℤ) + 1) := by
    exact_mod_cast Nat.lt_log2_self (n := num)
  have hdenLow : (2 : ℚ) ^ (den.log2 : ℤ) ≤ den := by
    exact_mod_cast Nat.log2_self_le hden.ne'
  have hdenHigh : (den : ℚ) < 2 ^ ((den.log2 : ℤ) + 1) := by
    exact_mod_cast Nat.lt_log2_self (n := den)
  rw [lt_div_iff₀ hpos, div_lt_iff₀ hpos]
  constructor
  · calc (2 : ℚ) ^ ((num.log2 : Int) - den.log2 - 1) * den
        < 2 ^ ((num.log2 : Int) - den.log2 - 1) * 2 ^ ((den.log2 : ℤ) + 1) := by gcongr
      _ = 2 ^ (num.log2 : ℤ) := by
        rw [← zpow_add₀ two_ne_zero]
        congr 1
        omega
      _ ≤ num := hnumLow
  · calc (num : ℚ) < 2 ^ ((num.log2 : ℤ) + 1) := hnumHigh
      _ = 2 ^ ((num.log2 : Int) - den.log2 + 1) * 2 ^ (den.log2 : ℤ) := by
        rw [← zpow_add₀ two_ne_zero]
        congr 1
        omega
      _ ≤ 2 ^ ((num.log2 : Int) - den.log2 + 1) * den := by gcongr

namespace Attracts

theorem lower_le (h : x.Attracts q) : (x.mantissa - x.reach) * 2 ^ x.exponent ≤ q :=
  h.lower.elim le_of_lt fun h => h.1.le

theorem le_upper (h : x.Attracts q) : q ≤ (x.mantissa + 1 / 2) * 2 ^ x.exponent :=
  h.upper.elim le_of_lt fun h => h.1.le

/-- With its exponent, what a magnitude attracts is rounded to its mantissa. -/
theorem roundedMantissa_eq (h : x.Attracts (num / den)) (hden : 0 < den) :
    roundedMantissa num den x.exponent = x.mantissa := by
  have hpow : (0 : ℚ) < 2 ^ x.exponent := zpow_pos two_pos _
  refine le_antisymm (Nat.le_of_not_lt fun hlt => ?_) ((le_roundedMantissa_iff hden _).2 ?_)
  · have hnext := (le_roundedMantissa_iff hden _).1 (Nat.succ_le_of_lt hlt)
    push_cast at hnext
    have hhalf : ((x.mantissa : ℚ) + 1 - 1 / 2) * 2 ^ x.exponent =
        (x.mantissa + 1 / 2) * 2 ^ x.exponent := by ring
    rw [hhalf] at hnext
    rcases h.upper with hupper | ⟨hupper, heven⟩ <;> rcases hnext with hnext | ⟨hnext, hodd⟩
    · exact absurd hupper hnext.not_gt
    · exact absurd hnext hupper.ne'
    · exact absurd hupper hnext.ne'
    · omega
  · have hreach : ((x.mantissa : ℚ) - 1 / 2) * 2 ^ x.exponent ≤
        (x.mantissa - x.reach) * 2 ^ x.exponent := by
      have := x.reach_le
      gcongr
    rcases h.lower with hlower | ⟨hlower, heven⟩
    · exact .inl (hreach.trans_lt hlower)
    · rcases hreach.lt_or_eq with hlt | heq
      · exact .inl (hlt.trans_eq hlower)
      · exact .inr ⟨heq.trans hlower, heven⟩

/-- With a smaller exponent its mantissa would take too many bits. -/
theorem le_roundedMantissa (h : x.Attracts (num / den)) (hden : 0 < den) {e : Int}
    (hleast : -1074 ≤ e) (he : e < x.exponent) : 2 ^ 53 ≤ roundedMantissa num den e := by
  have hpow : (0 : ℚ) < 2 ^ e := zpow_pos two_pos e
  have hmantissa := le_mantissa_of_lt (hleast.trans_lt he)
  have htwice : (2 : ℚ) ^ 53 - 1 / 2 ≤ 2 * (x.mantissa - x.reach) := by
    rcases hmantissa.eq_or_lt with heq | hlt
    · rw [reach, if_pos ⟨heq.symm, hleast.trans_lt he⟩, ← heq]
      norm_num
    · have hnext : (2 : ℚ) ^ 52 + 1 ≤ x.mantissa := by exact_mod_cast hlt
      have := x.reach_le
      linarith
  have hdouble : (2 : ℚ) ^ e * 2 ≤ 2 ^ x.exponent := by
    rw [← zpow_add_one₀ two_ne_zero]
    exact zpow_le_zpow_right₀ one_le_two he
  have hlower : ((2 : ℚ) ^ 53 - 1 / 2) * 2 ^ e ≤ num / den := calc
    ((2 : ℚ) ^ 53 - 1 / 2) * 2 ^ e ≤ 2 * (x.mantissa - x.reach) * 2 ^ e := by gcongr
    _ = (x.mantissa - x.reach) * (2 ^ e * 2) := by ring
    _ ≤ (x.mantissa - x.reach) * 2 ^ x.exponent := by
      gcongr
      linarith
    _ ≤ num / den := h.lower_le
  refine (le_roundedMantissa_iff hden e).2 ?_
  push_cast
  exact hlower.lt_or_eq.imp_right fun heq => ⟨heq, by norm_num⟩

/-- The exponent is among those that are tried. -/
theorem exponent_bounds (h : x.Attracts (num / den)) (hnum : num ≠ 0) (hden : 0 < den) :
    max ((num.log2 : Int) - den.log2 - 53) (-1074) ≤ x.exponent ∧
      x.exponent ≤ max ((num.log2 : Int) - den.log2 - 53) (-1074) + 2 := by
  obtain ⟨hlow, hhigh⟩ := zpow_log2_lt hnum hden
  have hpow : (0 : ℚ) < 2 ^ x.exponent := zpow_pos two_pos _
  constructor
  · have hmantissa : (x.mantissa : ℚ) + 1 ≤ 2 ^ 53 := by exact_mod_cast x.mantissa_lt
    have hbelow : (num / den : ℚ) < 2 ^ (53 + x.exponent) := calc
      (num / den : ℚ) ≤ (x.mantissa + 1 / 2) * 2 ^ x.exponent := h.le_upper
      _ < 2 ^ 53 * 2 ^ x.exponent := by
        gcongr
        linarith
      _ = 2 ^ (53 + x.exponent) := by
        rw [zpow_add₀ two_ne_zero]
        rfl
    have hlt := (zpow_lt_zpow_iff_right₀ one_lt_two).1 (hlow.trans hbelow)
    have := x.least_le_exponent
    omega
  · rcases x.least_le_exponent.eq_or_lt with heq | hlt
    · omega
    · have hmantissa : (2 : ℚ) ^ 52 ≤ x.mantissa := by exact_mod_cast le_mantissa_of_lt hlt
      have := x.reach_le
      have habove : (2 : ℚ) ^ (51 + x.exponent) ≤ num / den := calc
        (2 : ℚ) ^ (51 + x.exponent) = 2 ^ 51 * 2 ^ x.exponent := by
          rw [zpow_add₀ two_ne_zero]
          rfl
        _ ≤ (x.mantissa - x.reach) * 2 ^ x.exponent := by
          gcongr
          linarith
        _ ≤ num / den := h.lower_le
      have hlt := (zpow_lt_zpow_iff_right₀ one_lt_two).1 (habove.trans_lt hhigh)
      omega

/-- What a magnitude attracts has its mantissa and exponent. -/
theorem nearestBinary_eq (h : x.Attracts (num / den)) (hnum : num ≠ 0) (hden : 0 < den) :
    nearestBinary 53 (-1074) num den = some (x.mantissa, x.exponent) := by
  obtain ⟨hstart, hlast⟩ := h.exponent_bounds hnum hden
  have hfound : (if roundedMantissa num den x.exponent < 1 <<< 53 then
      some (roundedMantissa num den x.exponent, x.exponent) else none) =
        some (x.mantissa, x.exponent) := by
    rw [h.roundedMantissa_eq hden, if_pos x.canonical.1]
  have hskipped : ∀ e, -1074 ≤ e → e < x.exponent →
      (if roundedMantissa num den e < 1 <<< 53 then
        some (roundedMantissa num den e, e) else none) = none := fun e hleast he => by
    have hlarge := h.le_roundedMantissa hden hleast he
    rw [← Nat.one_shiftLeft] at hlarge
    exact if_neg (Nat.not_lt.2 hlarge)
  unfold nearestBinary
  show List.findSome? (fun e => if roundedMantissa num den e < 1 <<< 53 then
    some (roundedMantissa num den e, e) else none) [_, _, _] = _
  have hleast : -1074 ≤ max ((num.log2 : Int) - den.log2 - (53 : Nat)) (-1074) := le_max_right ..
  generalize hfirst : max ((num.log2 : Int) - den.log2 - (53 : Nat)) (-1074) = first at *
  rw [List.findSome?_cons]
  rcases hstart.eq_or_lt with rfl | hlt
  · rw [hfound]
  rw [hskipped first hleast hlt, List.findSome?_cons]
  rcases (Int.add_one_le_iff.2 hlt).eq_or_lt with heq | hlt'
  · rw [heq, hfound]
  have heq : first + 2 = x.exponent := by omega
  rw [hskipped (first + 1) (by omega) hlt', List.findSome?_cons, heq, hfound]

end Attracts

/-- A magnitude is the nearest one of all that it attracts. -/
theorem ofQuotient?_eq (h : x.Attracts (num / den)) (hnum : num ≠ 0) (hden : 0 < den) :
    ofQuotient? num den = some x := by
  rw [ofQuotient?, if_neg (by simpa using hnum), h.nearestBinary_eq hnum hden]
  exact dif_pos x.canonical

/-! ## Exact numbers -/

theorem attracts_self (x : Magnitude) : x.Attracts (x.mantissa * 2 ^ x.exponent) := by
  have hpow : (0 : ℚ) < 2 ^ x.exponent := zpow_pos two_pos _
  have hreach : (0 : ℚ) < x.reach := by
    unfold reach
    split <;> norm_num
  constructor <;> refine .inl ?_ <;> gcongr <;> linarith

/-- A whole number with no more bits than a mantissa has is a magnitude itself. -/
theorem exists_ofQuotient?_eq {n : Nat} (h : n ≤ 2 ^ 53) :
    ∃ x : Magnitude, ofQuotient? n 1 = some x ∧ x.mantissa * 2 ^ x.exponent = (n : ℚ) := by
  have hof (x : Magnitude) (hn : n ≠ 0) (hx : x.mantissa * 2 ^ x.exponent = (n : ℚ)) :
      ofQuotient? n 1 = some x ∧ x.mantissa * 2 ^ x.exponent = (n : ℚ) := by
    have hself := x.attracts_self
    rw [hx, ← div_one (n : ℚ), ← Nat.cast_one] at hself
    exact ⟨ofQuotient?_eq hself hn Nat.one_pos, hx⟩
  rcases Nat.eq_zero_or_pos n with rfl | hpos
  · exact ⟨zero, rfl, by simp [zero]⟩
  rcases h.eq_or_lt with rfl | hlt
  · exact ⟨⟨2 ^ 52, 1, by decide⟩, hof _ (by decide) (by norm_num)⟩
  · obtain ⟨j, hj⟩ : ∃ j, n.log2 + j = 52 :=
      ⟨52 - n.log2, by have := (Nat.log2_lt hpos.ne').2 hlt; omega⟩
    obtain ⟨-, hlow, hhigh⟩ := nearestBinary_small hpos.ne' hj
    refine ⟨⟨n <<< j, -(j : Int), hhigh, by omega, by omega, .inl hlow⟩, hof _ hpos.ne' ?_⟩
    rw [natCast_shiftLeft, mul_assoc, ← zpow_add₀ two_ne_zero, add_neg_cancel, zpow_zero, mul_one]

/-! ## What a nearest magnitude attracts -/

/-- What is found is the mantissa for an exponent that is the first to be tried, or the one before
it left a mantissa of too many bits. -/
theorem of_nearestBinary {m : Nat} {e : Int} (h : nearestBinary 53 (-1074) num den = some (m, e)) :
    roundedMantissa num den e = m ∧
      (e = max ((num.log2 : Int) - den.log2 - 53) (-1074) ∨
        2 ^ 53 ≤ roundedMantissa num den (e - 1)) := by
  obtain ⟨skipped, e', rest, htried, hfound, hskipped⟩ := List.findSome?_eq_some_iff.1 h
  dsimp only at hfound
  split at hfound
  · obtain ⟨hm, he⟩ := Prod.mk.inj (Option.some.inj hfound)
    subst he
    refine ⟨hm, ?_⟩
    have hlarge (e : Int) (hmem : e ∈ skipped) : 2 ^ 53 ≤ roundedMantissa num den e := by
      have hnone := hskipped e hmem
      dsimp only at hnone
      split at hnone
      · exact absurd hnone (by simp)
      · rw [← Nat.one_shiftLeft]
        exact Nat.le_of_not_lt ‹_›
    match skipped, htried with
    | [], htried => exact .inl (List.cons.inj htried).1.symm
    | [_], htried =>
      simp only [List.cons_append, List.nil_append, List.cons.injEq] at htried
      exact .inr (hlarge _ (List.mem_singleton.2 (by omega)))
    | [_, _], htried =>
      simp only [List.cons_append, List.nil_append, List.cons.injEq] at htried
      exact .inr (hlarge _ (List.mem_cons_of_mem _ (List.mem_singleton.2 (by omega))))
    | _ :: _ :: _ :: _, htried => exact absurd (congrArg List.length htried) (by simp)
  · exact absurd hfound (by simp)

/-- At a power of two, what is found is not too far above the quotient. -/
theorem le_of_nearestBinary {m : Nat} {e : Int} (hnum : num ≠ 0) (hden : 0 < den)
    (h : nearestBinary 53 (-1074) num den = some (m, e)) (hleast : -1074 < e) :
    (2 ^ 52 - 1 / 4) * 2 ^ e ≤ (num / den : ℚ) := by
  have hpow : (0 : ℚ) < 2 ^ e := zpow_pos two_pos e
  rcases (of_nearestBinary h).2 with hfirst | hlarge
  · have hexponent : (num.log2 : Int) - den.log2 - 1 = 52 + e := by omega
    have hlow := (zpow_log2_lt hnum hden).1
    rw [hexponent, zpow_add₀ two_ne_zero] at hlow
    calc (2 ^ 52 - 1 / 4) * 2 ^ e ≤ (2 : ℚ) ^ (52 : ℤ) * 2 ^ e := by
          gcongr
          norm_num
      _ ≤ num / den := hlow.le
  · have hlow := (le_roundedMantissa_iff hden _).1 hlarge
    calc (2 ^ 52 - 1 / 4) * 2 ^ e = (((2 ^ 53 : Nat) : ℚ) - 1 / 2) * 2 ^ (e - 1) := by
          rw [zpow_sub_one₀ two_ne_zero]
          push_cast
          ring
      _ ≤ num / den := hlow.elim le_of_lt fun heq => heq.1.le

/-- A magnitude attracts what is rounded to its mantissa, if at a power of two this is not too far
below. -/
theorem attracts_of_roundedMantissa (hden : 0 < den)
    (h : roundedMantissa num den x.exponent = x.mantissa)
    (hpower : x.mantissa = 2 ^ 52 → -1074 < x.exponent →
      (2 ^ 52 - 1 / 4) * 2 ^ x.exponent ≤ (num / den : ℚ)) : x.Attracts (num / den) := by
  have hlower := (le_roundedMantissa_iff hden _).1 h.ge
  have hupper := mt (le_roundedMantissa_iff hden _).2 (Nat.not_le.2 (Nat.lt_succ_of_le h.le))
  have hnext : ((x.mantissa.succ : ℚ) - 1 / 2) * 2 ^ x.exponent =
      (x.mantissa + 1 / 2) * 2 ^ x.exponent := by
    push_cast
    ring
  rw [hnext, not_or, not_lt] at hupper
  refine ⟨?_, ?_⟩
  · unfold reach
    split
    · rename_i hx
      rw [hx.1]
      exact (hpower hx.1 hx.2).lt_or_eq.imp (by push_cast; exact id)
        fun heq => ⟨by push_cast; exact heq, by norm_num⟩
    · exact hlower
  · refine hupper.1.lt_or_eq.imp_right fun heq => ⟨heq, ?_⟩
    have hodd : ¬ x.mantissa.succ % 2 = 0 := fun hodd => hupper.2 ⟨heq.symm, hodd⟩
    omega

/-- The nearest magnitude of a quotient attracts it. -/
theorem attracts_of_ofQuotient? (hden : 0 < den) (h : ofQuotient? num den = some x) :
    x.Attracts (num / den) := by
  unfold ofQuotient? at h
  split at h
  · rename_i hzero
    obtain rfl : zero = x := Option.some.inj h
    rw [beq_iff_eq.1 hzero]
    simpa [zero] using zero.attracts_self
  · rename_i hnum
    split at h
    · exact absurd h (by simp)
    · rename_i m e hnearest
      split at h
      · rename_i hcanonical
        obtain rfl := Option.some.inj h
        exact attracts_of_roundedMantissa hden (of_nearestBinary hnearest).1 fun _ =>
          le_of_nearestBinary (by simpa using hnum) hden hnearest
      · exact absurd h (by simp)

/-! ## Bounds -/

theorem Attracts.half_le (h : x.Attracts q) (hx : x.mantissa ≠ 0) : (2 : ℚ) ^ (-1075 : ℤ) ≤ q := by
  have hmantissa : (1 : ℚ) ≤ x.mantissa := by exact_mod_cast Nat.one_le_iff_ne_zero.2 hx
  have hhalf : (2 : ℚ) ^ (-1 : ℤ) ≤ x.mantissa - x.reach := by
    have := x.reach_le
    rw [zpow_neg_one]
    linarith
  have hpos : (0 : ℚ) ≤ x.mantissa - x.reach := (zpow_pos two_pos (-1)).le.trans hhalf
  calc (2 : ℚ) ^ (-1075 : ℤ) = 2 ^ (-1 : ℤ) * 2 ^ (-1074 : ℤ) :=
        zpow_add₀ two_ne_zero (-1) (-1074)
    _ ≤ (x.mantissa - x.reach) * 2 ^ x.exponent := by
      gcongr
      · exact one_le_two
      · exact x.least_le_exponent
    _ ≤ q := h.lower_le

theorem Attracts.lt_top (h : x.Attracts q) : q < (2 : ℚ) ^ (1024 : ℤ) := by
  have hmantissa : (x.mantissa : ℚ) + 1 ≤ 2 ^ 53 := by exact_mod_cast x.mantissa_lt
  calc q ≤ (x.mantissa + 1 / 2) * 2 ^ x.exponent := h.le_upper
    _ < 2 ^ 53 * 2 ^ x.exponent := by
      gcongr
      linarith
    _ ≤ 2 ^ 53 * 2 ^ (971 : ℤ) := by
      gcongr
      · exact one_le_two
      · exact x.canonical.2.2.1
    _ = (2 : ℚ) ^ (1024 : ℤ) := (zpow_add₀ two_ne_zero 53 971).symm

end Magnitude

/-- The number nearest to a whole number attracts it, with its sign. -/
theorem Binary64.ofInt_eq_finite {n : Int} {negative : Bool} {x : Magnitude}
    (h : ofInt n = .finite negative x) : negative = decide (n < 0) ∧ x.Attracts n.natAbs := by
  unfold ofInt ofQuotient at h
  split at h
  · rename_i hnearest
    obtain ⟨rfl, rfl⟩ := Binary64.finite.inj h
    have hattracts := Magnitude.attracts_of_ofQuotient? Nat.one_pos hnearest
    rw [Nat.cast_one, div_one] at hattracts
    exact ⟨rfl, hattracts⟩
  · exact absurd h (by simp)

/-! ## Decimals -/

theorem natCast_powerOfTen (k : Nat) : (powerOfTen k : ℚ) = 10 ^ (k : ℤ) := by
  rw [zpow_natCast]
  exact_mod_cast rfl

/-- The quotient that a decimal is. -/
theorem decimal_eq_div (n : Nat) (exponent : Int) :
    (n : ℚ) * 10 ^ exponent =
      (n * powerOfTen exponent.toNat : Nat) / (powerOfTen (-exponent).toNat : Nat) := by
  rw [Nat.cast_mul, natCast_powerOfTen, natCast_powerOfTen, mul_div_assoc,
    ← zpow_sub₀ (by norm_num : (10 : ℚ) ≠ 0)]
  congr 2
  omega

theorem powerOfTen_pos (k : Nat) : 0 < powerOfTen k := Nat.pow_pos (by decide)

/-- A whole number other than zero takes as many digits as it has places. -/
theorem zpow_digitCount_le {n : Nat} (hn : n ≠ 0) :
    (10 : ℚ) ^ ((digitCount n : ℤ) - 1) ≤ n ∧ (n : ℚ) < 10 ^ (digitCount n : ℤ) := by
  have hpos : 0 < digitCount n := Nat.length_toDigits_pos
  have hhigh : n < 10 ^ digitCount n :=
    (Nat.length_toDigits_le_iff (by decide) hpos).1 (Nat.le_refl _)
  refine ⟨?_, by exact_mod_cast hhigh⟩
  obtain ⟨k, hk⟩ : ∃ k, digitCount n = k + 1 := ⟨digitCount n - 1, by omega⟩
  have hlow : 10 ^ k ≤ n := by
    rcases Nat.eq_zero_or_pos k with rfl | hkpos
    · exact Nat.one_le_iff_ne_zero.2 hn
    · by_contra hlt
      have hle := (Nat.length_toDigits_le_iff (by decide) hkpos).2 (Nat.not_le.1 hlt)
      have : digitCount n ≤ k := hle
      omega
  rw [hk, Nat.cast_succ, add_sub_cancel_right, zpow_natCast]
  exact_mod_cast hlow

theorem zpow_two_le_ten {k : ℤ} (hk : k ≤ 1200) : (2 : ℚ) ^ k ≤ 10 ^ (400 : ℤ) := calc
  (2 : ℚ) ^ k ≤ 2 ^ (3 * 400 : ℤ) := zpow_le_zpow_right₀ one_le_two hk
  _ = (2 ^ (3 : ℤ)) ^ (400 : ℤ) := zpow_mul 2 3 400
  _ ≤ 10 ^ (400 : ℤ) := by
    rw [zpow_ofNat, zpow_ofNat]
    exact pow_le_pow_left₀ (by norm_num) (by norm_num) 400

/-- A decimal is read as the magnitude that attracts it. -/
theorem Binary64.ofDecimal_eq {x : Magnitude} {digits : Nat} {exponent : Int} (negative : Bool)
    (h : x.Attracts (digits * 10 ^ exponent)) (hx : x.mantissa ≠ 0) :
    ofDecimal negative digits exponent = finite negative x := by
  have hten : (0 : ℚ) < 10 ^ exponent := zpow_pos (by norm_num) exponent
  have hlow := h.half_le hx
  have hhigh := h.lt_top
  have hdigits : digits ≠ 0 := by
    rintro rfl
    rw [Nat.cast_zero, zero_mul] at hlow
    exact absurd (zpow_pos (two_pos : (0 : ℚ) < 2) _) hlow.not_gt
  obtain ⟨hplace, hplace'⟩ := zpow_digitCount_le hdigits
  have hadd (k : ℤ) : (10 : ℚ) ^ k * 10 ^ exponent = 10 ^ (exponent + k) := by
    rw [← zpow_add₀ (by norm_num), add_comm]
  have hbelow : ¬ exponent + digitCount digits < -400 := by
    intro hlt
    have hsmall : (digits : ℚ) * 10 ^ exponent < 2 ^ (-1075 : ℤ) := calc
      (digits : ℚ) * 10 ^ exponent < 10 ^ (digitCount digits : ℤ) * 10 ^ exponent := by gcongr
      _ = 10 ^ (exponent + digitCount digits) := hadd _
      _ ≤ 10 ^ (-400 : ℤ) := zpow_le_zpow_right₀ (by norm_num) hlt.le
      _ ≤ 2 ^ (-1075 : ℤ) := by
        rw [zpow_neg, zpow_neg]
        exact inv_anti₀ (zpow_pos two_pos 1075) (zpow_two_le_ten (by decide))
    exact absurd hlow hsmall.not_ge
  have habove : ¬ exponent + digitCount digits > 400 := by
    intro hlt
    have hlarge : (2 : ℚ) ^ (1024 : ℤ) ≤ digits * 10 ^ exponent := calc
      (2 : ℚ) ^ (1024 : ℤ) ≤ 10 ^ (400 : ℤ) := zpow_two_le_ten (by decide)
      _ ≤ 10 ^ (exponent + (digitCount digits - 1)) :=
        zpow_le_zpow_right₀ (by norm_num) (by omega)
      _ = 10 ^ ((digitCount digits : ℤ) - 1) * 10 ^ exponent := (hadd _).symm
      _ ≤ digits * 10 ^ exponent := by gcongr
    exact absurd hhigh hlarge.not_gt
  rw [decimal_eq_div] at h
  have hnum : digits * powerOfTen exponent.toNat ≠ 0 :=
    Nat.mul_ne_zero hdigits (powerOfTen_pos _).ne'
  unfold ofDecimal
  dsimp only
  rw [if_neg (by simpa [hdigits] using hbelow), if_neg habove, ofQuotient,
    Magnitude.ofQuotient?_eq h hnum (powerOfTen_pos _)]

end AgentConvert
