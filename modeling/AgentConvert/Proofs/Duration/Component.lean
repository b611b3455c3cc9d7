import AgentConvert.Proofs.Duration.Spelling
import Mathlib.Algebra.Order.Floor.Semifield
import Mathlib.Data.Rat.Floor
import Mathlib.Tactic.NormNum
import Mathlib.Tactic.Ring

/-!
# What a component of a duration lasts

A component lasts its number of units, cut off below a nanosecond (`Component.nanos`). The reader
looks at the first 20 digits of the fraction and reads what is left of the component
(`Component.cut`, `Component.componentNanos?_eq`). Then nothing that it computes without a check
takes more than 128 bits (`Component.unchecked_fits`).

The digits that are cut off may change a component, but only one of a unit above a second, and only
by one nanosecond (`Component.cut_nanos`): they matter where the first 20 digits fall short of a
whole nanosecond by less than their last place, as in `0.333333333333333333334m`.
-/

namespace AgentConvert.Duration

/-! ## Digits -/

theorem natOfDigits_cons (d : Char) (ds : List Char) : natOfDigits (d :: ds) =
    (d.toNat - '0'.toNat) * 10 ^ ds.length + natOfDigits ds := by
  rw [natOfDigits, List.foldl_cons, foldl_digits, Nat.mul_zero, Nat.zero_add]
  rfl

theorem natOfDigits_lt {ds : List Char} (h : ∀ d ∈ ds, d.isDigit = true) :
    natOfDigits ds < 10 ^ ds.length := by
  induction ds with
  | nil => decide
  | cons d ds ih =>
    have hd := isDigit_iff.1 (h d (List.mem_cons_self ..))
    have hnine : d.toNat - '0'.toNat ≤ 9 := by
      show d.toNat - 48 ≤ 9
      omega
    have hds := ih fun e he => h e (List.mem_cons_of_mem _ he)
    have hlead := Nat.mul_le_mul_right (10 ^ ds.length) hnine
    rw [natOfDigits_cons, List.length_cons, Nat.pow_succ]
    omega

/-- Digits behind the first ones move a quotient by at most one, and not at all where the unit is a
part of the scale. -/
theorem div_cut (read : ℕ) {rest unit scale places : ℕ} (hrest : rest < places) (hpos : 0 < unit)
    (hunit : unit ≤ scale) :
    let all := read * places + rest
    read * unit / scale ≤ all * unit / (places * scale) ∧
      all * unit / (places * scale) ≤ read * unit / scale + 1 ∧
      (unit ∣ scale → read * unit / scale = all * unit / (places * scale)) := by
  intro all
  have hplaces : 0 < places := Nat.zero_lt_of_lt hrest
  have hscale : 0 < scale := Nat.lt_of_lt_of_le hpos hunit
  have hall : all / places = read := by
    show (read * places + rest) / places = read
    rw [Nat.add_comm, Nat.add_mul_div_right _ _ hplaces, Nat.div_eq_of_lt hrest, Nat.zero_add]
  have hlow : read * unit ≤ all * unit / places := by
    rw [Nat.le_div_iff_mul_le hplaces]
    calc read * unit * places = read * places * unit := by ring
      _ ≤ all * unit := Nat.mul_le_mul_right _ (Nat.le_add_right ..)
  have hhigh : all * unit / places ≤ read * unit + scale := by
    have hlt : all * unit < (read * unit + unit) * places := by
      calc all * unit < (read * places + places) * unit :=
            Nat.mul_lt_mul_of_pos_right (Nat.add_lt_add_left hrest _) hpos
        _ = (read * unit + unit) * places := by ring
    have hquotient := (Nat.div_lt_iff_lt_mul hplaces).2 hlt
    omega
  rw [← Nat.div_div_eq_div_mul]
  refine ⟨Nat.div_le_div_right hlow, ?_, ?_⟩
  · calc all * unit / places / scale ≤ (read * unit + scale) / scale := Nat.div_le_div_right hhigh
      _ = read * unit / scale + 1 := Nat.add_div_right _ hscale
  · rintro ⟨parts, rfl⟩
    rw [Nat.mul_comm read, Nat.mul_div_mul_left _ _ hpos, Nat.div_div_eq_div_mul,
      Nat.mul_left_comm, Nat.mul_comm all, Nat.mul_div_mul_left _ _ hpos,
      ← Nat.div_div_eq_div_mul, hall]

/-! ## What a component lasts -/

namespace Component

/-- The nanoseconds of the unit. -/
def unitNanos (c : Component) : ℕ := ((unitNanos? c.unit).map BitVec.toNat).getD 0

/-- The number in front of the unit. -/
def value (c : Component) : ℚ :=
  natOfDigits c.whole + natOfDigits c.fraction / 10 ^ c.fraction.length

/-- What the component lasts, in whole nanoseconds. -/
def nanos (c : Component) : ℕ := ⌊c.value * c.unitNanos⌋₊

/-- The component with the digits of the fraction that are read. -/
def cut (c : Component) : Component := { c with fraction := c.fraction.take 20 }

variable {c : Component} {unit : Wide} {part : List Char}

theorem nanos_eq (c : Component) : c.nanos = natOfDigits c.whole * c.unitNanos +
    natOfDigits c.fraction * c.unitNanos / 10 ^ c.fraction.length := by
  have hpos : 0 < 10 ^ c.fraction.length := Nat.pow_pos (by decide)
  have hne : (10 : ℚ) ^ c.fraction.length ≠ 0 := pow_ne_zero _ (by norm_num)
  have hquotient : c.value * c.unitNanos =
      ((natOfDigits c.whole * c.unitNanos * 10 ^ c.fraction.length +
        natOfDigits c.fraction * c.unitNanos : ℕ) : ℚ) / (10 ^ c.fraction.length : ℕ) := by
    rw [value]
    push_cast
    rw [add_div, mul_div_cancel_right₀ _ hne]
    ring
  rw [nanos, hquotient, Nat.floor_div_eq_div, Nat.add_comm, Nat.add_mul_div_right _ _ hpos,
    Nat.add_comm]

theorem unitNanos_eq (h : unitNanos? c.unit = some unit) : c.unitNanos = unit.toNat := by
  rw [unitNanos, h]
  rfl

/-- The units last from a nanosecond to a year; those up to a second are powers of ten. -/
theorem unit_bounds (h : unitNanos? c.unit = some unit) :
    1 ≤ unit.toNat ∧ unit.toNat ≤ 31536000000000000 ∧
      (unit.toNat ≤ 1000000000 → unit.toNat ∣ 10 ^ 20) := by
  have hall : ∀ e ∈ units, 1 ≤ e.2 ∧ e.2 ≤ 31536000000000000 ∧
      (e.2 ≤ 1000000000 → e.2 ∣ 10 ^ 20) := by decide
  exact hall _ (mem_units h)

theorem cut_of_length_le (h : c.fraction.length ≤ 20) : c.cut = c := by
  obtain ⟨whole, fraction, unit⟩ := c
  exact congrArg (Component.mk whole · unit) (List.take_of_length_le h)

/-- The digits that are cut off take at most a nanosecond with them, and none if there are no such
digits or the unit is at most a second. -/
theorem cut_nanos (h : c.SpelledBy part) : c.cut.nanos ≤ c.nanos ∧ c.nanos ≤ c.cut.nanos + 1 ∧
    (c.fraction.length ≤ 20 ∨ c.unitNanos ≤ 1000000000 → c.cut.nanos = c.nanos) := by
  obtain ⟨unit, hunit⟩ := Option.isSome_iff_exists.1 h.unit
  obtain ⟨hpos, hbound, hdvd⟩ := unit_bounds hunit
  rw [← unitNanos_eq hunit] at hpos hbound hdvd
  rcases Nat.lt_or_ge 20 c.fraction.length with hlong | hshort
  · -- the fraction is that of 20 digits, moved up by the places behind them, and these
    have hfraction : natOfDigits c.fraction =
        natOfDigits (c.fraction.take 20) * 10 ^ (c.fraction.drop 20).length +
          natOfDigits (c.fraction.drop 20) := by
      conv_lhs => rw [← List.take_append_drop 20 c.fraction]
      exact natOfDigits_append _ _
    have hrest : natOfDigits (c.fraction.drop 20) < 10 ^ (c.fraction.drop 20).length :=
      natOfDigits_lt fun d hd => h.fraction d (List.mem_of_mem_drop hd)
    have hplaces : 10 ^ c.fraction.length = 10 ^ (c.fraction.drop 20).length * 10 ^ 20 := by
      rw [← Nat.pow_add, List.length_drop, Nat.sub_add_cancel hlong.le]
    have hcut : c.cut.nanos = natOfDigits c.whole * c.unitNanos +
        natOfDigits (c.fraction.take 20) * c.unitNanos / 10 ^ 20 := by
      have hlength : (c.fraction.take 20).length = 20 := by
        rw [List.length_take, Nat.min_eq_left hlong.le]
      rw [nanos_eq]
      show _ + _ / 10 ^ (c.fraction.take 20).length = _
      rw [hlength]
      rfl
    obtain ⟨hle, hge, heq⟩ := div_cut (natOfDigits (c.fraction.take 20)) hrest hpos
      (hbound.trans (show 31536000000000000 ≤ 10 ^ 20 by decide))
    rw [hcut, nanos_eq, hfraction, hplaces]
    refine ⟨Nat.add_le_add_left hle _, Nat.add_le_add_left hge _, fun hsmall => ?_⟩
    exact congrArg _ (heq (hdvd (hsmall.resolve_left (Nat.not_le.2 hlong))))
  · rw [cut_of_length_le hshort]
    exact ⟨le_rfl, Nat.le_succ _, fun _ => rfl⟩

/-! ## What is read of a component -/

/-- The digits of the fraction that are read, their product with the unit and the scale take at most
128 bits, so their quotient is that of numbers without a limit. -/
theorem unchecked_fits (hfraction : ∀ d ∈ c.fraction, d.isDigit = true)
    (hunit : unitNanos? c.unit = some unit) :
    ∃ digits, Wide.ofDigits? (c.fraction.take 20) = some digits ∧
      digits.umulOverflow unit = false ∧
      (Wide.powerOfTen (c.fraction.take 20).length).toNat = 10 ^ (c.fraction.take 20).length ∧
      (digits * unit / Wide.powerOfTen (c.fraction.take 20).length).toNat =
        natOfDigits (c.fraction.take 20) * unit.toNat / 10 ^ (c.fraction.take 20).length := by
  have hsize : 10 ^ 20 * 31536000000000000 < Wide.size := by decide
  obtain ⟨-, hbound, -⟩ := unit_bounds hunit
  have hscale : 10 ^ (c.fraction.take 20).length ≤ 10 ^ 20 :=
    Nat.pow_le_pow_right (by decide) (List.length_take_le ..)
  have hdigits : natOfDigits (c.fraction.take 20) < 10 ^ (c.fraction.take 20).length :=
    natOfDigits_lt fun d hd => hfraction d (List.mem_of_mem_take hd)
  have hproduct : natOfDigits (c.fraction.take 20) * unit.toNat < Wide.size :=
    Nat.lt_of_le_of_lt (Nat.mul_le_mul (hdigits.le.trans hscale) hbound) hsize
  have hpower : (Wide.powerOfTen (c.fraction.take 20).length).toNat =
      10 ^ (c.fraction.take 20).length :=
    Wide.toNat_ofNat (Nat.lt_of_le_of_lt hscale (by omega))
  obtain ⟨digits, hread⟩ : ∃ digits, Wide.ofNat? (natOfDigits (c.fraction.take 20)) = some digits :=
    ⟨_, if_pos (by omega)⟩
  have hvalue := Wide.ofNat?_eq_some.1 hread
  refine ⟨digits, (Wide.ofDigits?_eq _).trans hread, ?_, hpower, ?_⟩
  · rw [BitVec.umulOverflow, hvalue]
    exact decide_eq_false (Nat.not_le.2 hproduct)
  · rw [BitVec.toNat_udiv, hpower, BitVec.toNat_mul, hvalue]
    exact congrArg (· / _) (Nat.mod_eq_of_lt hproduct)

/-- What is read of a component is what is left of it when the fraction is cut off behind 20 digits,
if that takes at most 128 bits. -/
theorem componentNanos?_eq (hfraction : ∀ d ∈ c.fraction, d.isDigit = true)
    (hunit : unitNanos? c.unit = some unit) :
    componentNanos? c.whole c.fraction unit = Wide.ofNat? c.cut.nanos := by
  obtain ⟨digits, hdigits, -, -, hquotient⟩ := unchecked_fits hfraction hunit
  obtain ⟨hpos, -, -⟩ := unit_bounds hunit
  have hcut : c.cut.nanos = natOfDigits c.whole * unit.toNat +
      natOfDigits (c.fraction.take 20) * unit.toNat / 10 ^ (c.fraction.take 20).length := by
    rw [nanos_eq, ← unitNanos_eq hunit]
    rfl
  rw [hcut]
  show (Wide.ofDigits? c.whole).bind (fun number => (number.mul? unit).bind _) = _
  rw [Wide.ofDigits?_eq]
  cases hnumber : Wide.ofNat? (natOfDigits c.whole) with
  | none =>
    have hlarge := Wide.ofNat?_eq_none.1 hnumber
    have hunits := Nat.le_mul_of_pos_right (natOfDigits c.whole) hpos
    exact (Wide.ofNat?_eq_none.2 (by omega)).symm
  | some number =>
    rw [Option.bind_some, Wide.mul?_eq, Wide.ofNat?_eq_some.1 hnumber]
    cases hnanos : Wide.ofNat? (natOfDigits c.whole * unit.toNat) with
    | none =>
      have hlarge := Wide.ofNat?_eq_none.1 hnanos
      exact (Wide.ofNat?_eq_none.2 (by omega)).symm
    | some nanos =>
      have hvalue := Wide.ofNat?_eq_some.1 hnanos
      rw [Option.bind_some]
      show (if (c.fraction.take 20).isEmpty then _ else _) = _
      split
      · rename_i hempty
        have hzero : natOfDigits (c.fraction.take 20) = 0 := by
          rw [List.isEmpty_iff.1 hempty]
          rfl
        rw [hzero, Nat.zero_mul, Nat.zero_div, Nat.add_zero, hnanos]
      · rw [hdigits]
        show nanos.add? _ = _
        rw [Wide.add?_eq, hquotient, hvalue]

end Component

end AgentConvert.Duration
