import AgentConvert.Proofs.Formatted.Numerals
import AgentConvert.Proofs.Number.Nearest
import Mathlib.Data.List.TakeWhile

/-!
# A written number is read back

The shortest decimal of a number is attracted by the number's magnitude
(`Magnitude.attracts_shortest`): seventeen digits are enough, since two neighbours on such a grid
are closer to each other than the magnitude reaches to both sides. Its positional notation spells
the same decimal, so reading the text of a finite number gives the number (`Binary64.read?_text`).
The digits of a whole number are read as the number nearest to it (`Binary64.read?_toString`).
-/

namespace AgentConvert

namespace Magnitude

variable {x : Magnitude} {n unit per : Nat}

/-! ## The numbers that round to a magnitude -/

theorem rounding_den_pos (x : Magnitude) : 0 < x.rounding.den :=
  dividePow2_snd_pos x.mantissa (by decide) _

theorem scaled_div_den (x : Magnitude) (n : Nat) :
    ((dividePow2 n 4 (-x.exponent)).1 : ℚ) / x.rounding.den = n / 4 * 2 ^ x.exponent := by
  have hsame : x.rounding.den = (dividePow2 n 4 (-x.exponent)).2 := rfl
  rw [hsame, dividePow2_div, zpow_neg, div_inv_eq_mul]
  norm_cast

theorem rounding_value (x : Magnitude) :
    (x.rounding.value : ℚ) / x.rounding.den = x.mantissa * 2 ^ x.exponent := by
  refine (x.scaled_div_den (4 * x.mantissa)).trans ?_
  push_cast
  ring

theorem rounding_high (x : Magnitude) :
    (x.rounding.high : ℚ) / x.rounding.den = (x.mantissa + 1 / 2) * 2 ^ x.exponent := by
  refine (x.scaled_div_den (4 * x.mantissa + 2)).trans ?_
  push_cast
  ring

theorem rounding_low (hx : x.mantissa ≠ 0) :
    (x.rounding.low : ℚ) / x.rounding.den = (x.mantissa - x.reach) * 2 ^ x.exponent := by
  have hcases : (x.mantissa == 1 <<< 52 && decide (x.exponent > -1074)) = true ↔
      x.mantissa = 2 ^ 52 ∧ -1074 < x.exponent := by
    rw [Nat.one_shiftLeft, Bool.and_eq_true, beq_iff_eq, decide_eq_true_eq]
  refine (x.scaled_div_den _).trans ?_
  rw [reach, if_congr hcases rfl rfl, Nat.cast_sub (by split <;> omega)]
  split <;> push_cast <;> ring

/-- The test for a point of a grid tells what the magnitude attracts. -/
theorem contains_rounding_iff (hx : x.mantissa ≠ 0) (hper : 0 < per) :
    x.rounding.contains n unit per = true ↔ x.Attracts ((n * unit : Nat) / per) := by
  have hden : (0 : ℚ) < x.rounding.den := by exact_mod_cast x.rounding_den_pos
  have hper' : (0 : ℚ) < per := by exact_mod_cast hper
  have hle : ∀ a b c d : Nat, (0 : ℚ) < b → (0 : ℚ) < d →
      (a * d ≤ c * b ↔ (a / b : ℚ) ≤ c / d) := fun a b c d hb hd => by
    rw [div_le_div_iff₀ hb hd]
    exact_mod_cast Iff.rfl
  have hlow := hle x.rounding.low x.rounding.den (n * unit) per hden hper'
  have hhigh := hle (n * unit) per x.rounding.high x.rounding.den hper' hden
  have hlow' := hle (n * unit) per x.rounding.low x.rounding.den hper' hden
  have hhigh' := hle x.rounding.high x.rounding.den (n * unit) per hden hper'
  rw [rounding_low hx] at hlow hlow'
  rw [rounding_high] at hhigh hhigh'
  have hclosed : x.rounding.closed = (x.mantissa % 2 == 0) := rfl
  rw [Rounding.contains, hclosed]
  split <;> rename_i heven <;> rw [beq_iff_eq] at heven
  · rw [Bool.and_eq_true, decide_eq_true_eq, decide_eq_true_eq, hlow, hhigh]
    exact ⟨fun h => ⟨h.1.lt_or_eq.imp_right (⟨·, heven⟩), h.2.lt_or_eq.imp_right (⟨·, heven⟩)⟩,
      fun h => ⟨h.lower_le, h.le_upper⟩⟩
  · rw [Bool.and_eq_true, decide_eq_true_eq, decide_eq_true_eq, ← Nat.not_le, ← Nat.not_le, hlow',
      hhigh', not_le, not_le]
    exact ⟨fun h => ⟨.inl h.1, .inl h.2⟩,
      fun h => ⟨h.lower.resolve_right fun h => heven h.2, h.upper.resolve_right fun h => heven h.2⟩⟩

/-! ## Grids -/

theorem onGrid?_eq_some (r : Rounding) {k : Nat} (h : r.onGrid? unit per = some k) :
    r.contains k unit per = true := by
  unfold Rounding.onGrid? at h
  dsimp only at h
  split at h
  · rename_i hbelow habove
    split at h
    · exact Option.some.inj h ▸ hbelow
    · exact Option.some.inj h ▸ habove
  · exact Option.some.inj h ▸ ‹_›
  · exact Option.some.inj h ▸ ‹_›
  · exact absurd h (by simp)

/-- A value lies between two neighbours on every grid. -/
theorem grid_bounds {below : Nat} (hunit : 0 < unit) (hper : 0 < per)
    (hbelow : x.rounding.value * per / (x.rounding.den * unit) = below) :
    (below * unit / per : ℚ) ≤ x.mantissa * 2 ^ x.exponent ∧
      x.mantissa * 2 ^ x.exponent < ((below + 1) * unit / per : ℚ) := by
  have hden := x.rounding_den_pos
  rw [← x.rounding_value, div_le_div_iff₀ (by positivity) (by positivity),
    div_lt_div_iff₀ (by positivity) (by positivity)]
  constructor
  · have hmul := Nat.div_mul_le_self (x.rounding.value * per) (x.rounding.den * unit)
    rw [hbelow] at hmul
    exact_mod_cast (by linarith : below * unit * x.rounding.den ≤ x.rounding.value * per)
  · have hmul := Nat.lt_mul_div_succ (x.rounding.value * per) (Nat.mul_pos hden hunit)
    rw [hbelow] at hmul
    exact_mod_cast (by linarith :
      x.rounding.value * per < (below + 1) * unit * x.rounding.den)

/-- A grid that is finer than the reach of a magnitude to both sides has a point that rounds to it.
-/
theorem isSome_onGrid? (hx : x.mantissa ≠ 0) (hunit : 0 < unit) (hper : 0 < per)
    (hfine : (unit / per : ℚ) < 3 / 4 * 2 ^ x.exponent) :
    (x.rounding.onGrid? unit per).isSome = true := by
  have hstep : (0 : ℚ) < unit / per := by positivity
  have hpow : (0 : ℚ) < 2 ^ x.exponent := zpow_pos two_pos _
  have hreach : (1 / 4 : ℚ) ≤ x.reach := by
    unfold reach
    split <;> norm_num
  unfold Rounding.onGrid?
  dsimp only
  generalize hbelow : x.rounding.value * per / (x.rounding.den * unit) = below
  obtain ⟨hlow, hhigh⟩ := grid_bounds hunit hper hbelow
  split
  · rfl
  · rfl
  · rfl
  · rename_i hno hno'
    rw [← Bool.not_eq_true, contains_rounding_iff hx hper] at hno hno'
    push_cast at hno hno'
    have hdown : (below * unit / per : ℚ) ≤ (x.mantissa - x.reach) * 2 ^ x.exponent := by
      by_contra hlt
      refine hno ⟨.inl (not_le.1 hlt), .inl (hlow.trans_lt ?_)⟩
      gcongr
      linarith
    have hup : (x.mantissa + 1 / 2) * 2 ^ x.exponent ≤ ((below + 1) * unit / per : ℚ) := by
      by_contra hlt
      refine hno' ⟨.inl (lt_trans ?_ hhigh), .inl (not_le.1 hlt)⟩
      gcongr
      linarith
    have hgap : ((below + 1) * unit / per : ℚ) = below * unit / per + unit / per := by ring
    nlinarith

/-! ## The shortest decimal -/

/-- The place of the value is the first one of a decimal that is not above it. -/
theorem zpow_place_le (r : Rounding) (hvalue : r.value ≠ 0) (hden : 0 < r.den) :
    (10 : ℚ) ^ r.place ≤ r.value / r.den := by
  have hpos : (0 : ℚ) < r.den := by exact_mod_cast hden
  have hten : (10 : ℚ) ≠ 0 := by norm_num
  unfold Rounding.place
  dsimp only
  generalize hguess : (digitCount r.value : Int) - digitCount r.den = guess
  split
  · rename_i hreached
    have hcast : (r.den : ℚ) * 10 ^ (guess.toNat : ℤ) ≤ r.value * 10 ^ ((-guess).toNat : ℤ) := by
      rw [← natCast_powerOfTen, ← natCast_powerOfTen]
      exact_mod_cast hreached
    have hpow : (0 : ℚ) < 10 ^ ((-guess).toNat : ℤ) := by positivity
    have hsplit : (10 : ℚ) ^ guess = 10 ^ (guess.toNat : ℤ) / 10 ^ ((-guess).toNat : ℤ) := by
      rw [← zpow_sub₀ hten]
      congr 1
      omega
    rw [hsplit, div_le_div_iff₀ hpow hpos]
    linarith
  · obtain ⟨hlow, -⟩ := zpow_digitCount_le hvalue
    obtain ⟨-, hhigh⟩ := zpow_digitCount_le hden.ne'
    rw [le_div_iff₀ hpos]
    calc (10 : ℚ) ^ (guess - 1) * r.den
        ≤ 10 ^ (guess - 1) * 10 ^ (digitCount r.den : ℤ) := by gcongr
      _ = 10 ^ ((digitCount r.value : ℤ) - 1) := by
        rw [← zpow_add₀ hten]
        congr 1
        omega
      _ ≤ r.value := hlow

/-- Of a grid with seventeen digits to the value, one point rounds to the magnitude. -/
theorem isSome_attempt (hx : x.mantissa ≠ 0) :
    (x.rounding.onGrid? (powerOfTen (x.rounding.place - (17 : Nat)).toNat)
      (powerOfTen (-(x.rounding.place - (17 : Nat))).toNat)).isSome = true := by
  refine isSome_onGrid? hx (powerOfTen_pos _) (powerOfTen_pos _) ?_
  have hpow : (0 : ℚ) < 2 ^ x.exponent := zpow_pos two_pos _
  have hvalue : x.rounding.value ≠ 0 := by
    intro hzero
    have hquotient := x.rounding_value
    rw [hzero, Nat.cast_zero, zero_div] at hquotient
    exact hx (by exact_mod_cast (mul_eq_zero.1 hquotient.symm).resolve_right hpow.ne')
  have hplace := zpow_place_le x.rounding hvalue x.rounding_den_pos
  rw [rounding_value] at hplace
  have hmantissa : (x.mantissa : ℚ) ≤ 2 ^ 53 := by exact_mod_cast x.mantissa_lt.le
  have hunit := decimal_eq_div 1 (x.rounding.place - (17 : Nat))
  rw [Nat.one_mul, Nat.cast_one, one_mul] at hunit
  rw [← hunit, zpow_sub₀ (by norm_num), div_lt_iff₀ (by positivity)]
  calc (10 : ℚ) ^ x.rounding.place ≤ x.mantissa * 2 ^ x.exponent := hplace
    _ ≤ 2 ^ 53 * 2 ^ x.exponent := by gcongr
    _ < 3 / 4 * 2 ^ x.exponent * 10 ^ ((17 : Nat) : ℤ) := by
      rw [zpow_natCast]
      linarith

/-- The shortest decimal of a magnitude is one that rounds to it. -/
theorem attracts_shortest (hx : x.mantissa ≠ 0) :
    x.Attracts (x.rounding.shortest.1 * 10 ^ x.rounding.shortest.2) := by
  let attempt (n : Nat) : Option (Nat × Int) :=
    (x.rounding.onGrid? (powerOfTen (x.rounding.place - n).toNat)
      (powerOfTen (-(x.rounding.place - n)).toNat)).map (·, x.rounding.place - n)
  have hsome : ((List.range 18).findSome? attempt).isSome = true :=
    List.findSome?_isSome_iff.2 ⟨17, by decide, by
      rw [Option.isSome_map]
      exact isSome_attempt hx⟩
  obtain ⟨decimal, hdecimal⟩ := Option.isSome_iff_exists.1 hsome
  have hshortest : x.rounding.shortest = decimal := by
    show ((List.range 18).findSome? attempt).getD (0, 0) = decimal
    rw [hdecimal, Option.getD_some]
  obtain ⟨n, -, hn⟩ := List.exists_of_findSome?_eq_some hdecimal
  obtain ⟨k, hk, rfl⟩ := Option.map_eq_some_iff.1 hn
  rw [hshortest, decimal_eq_div]
  exact (contains_rounding_iff hx (powerOfTen_pos _)).1 (onGrid?_eq_some _ hk)

end Magnitude

/-! ## Reading -/

/-- Digits, with others behind a point if there are any, are read as the decimal that they spell. -/
theorem readDecimal?_digits (negative : Bool) {whole fraction : List Char}
    (hwhole : AreDigits whole) (hfraction : ∀ c ∈ fraction, c.isDigit = true) :
    readDecimal? negative (whole ++ (if fraction.isEmpty then [] else '.' :: fraction)) =
      some (.ofDecimal negative (natOfDigits (whole ++ fraction)) (-(fraction.length : Int))) := by
  have htake (rest : List Char) (hrest : ∀ c ∈ rest.head?, c.isDigit = false) :
      (whole ++ rest).takeWhile Char.isDigit = whole ∧
        (whole ++ rest).dropWhile Char.isDigit = rest := by
    rw [List.takeWhile_append_of_pos hwhole.2, List.dropWhile_append_of_pos hwhole.2]
    cases rest with
    | nil => simp
    | cons c rest =>
      have hc : c.isDigit = false := hrest c rfl
      simp [hc]
  have hne : whole.isEmpty = false := List.isEmpty_eq_false_iff.2 hwhole.1
  unfold readDecimal?
  cases fraction with
  | nil =>
    rw [List.isEmpty_nil, if_pos rfl]
    obtain ⟨hdigits, hrest⟩ := htake [] (by simp)
    simp only [hdigits, hrest, hne]
    simp
  | cons c fraction =>
    rw [List.isEmpty_cons, if_neg Bool.false_ne_true]
    obtain ⟨hdigits, hrest⟩ := htake ('.' :: c :: fraction) (by simp)
    have hall : (c :: fraction).takeWhile Char.isDigit = c :: fraction :=
      List.takeWhile_eq_self_iff.2 hfraction
    have hnone : (c :: fraction).dropWhile Char.isDigit = [] :=
      List.dropWhile_eq_nil_iff.2 hfraction
    simp only [hdigits, hrest, hall, hnone, hne]
    simp

theorem toLower_of_isDigit {c : Char} (h : c.isDigit = true) : c.toLower = c := by
  have hbelow : ('9' : Char).val < ('A' : Char).val := by decide
  unfold Char.isDigit at h
  rw [Bool.and_eq_true, decide_eq_true_eq, decide_eq_true_eq] at h
  unfold Char.toLower
  exact dif_neg fun hA => UInt32.not_lt.2 hA.1 (UInt32.lt_of_le_of_lt h.2 hbelow)

/-- What starts with a digit is read as a decimal, behind a minus or not. -/
theorem Binary64.read?_of_digit (negative : Bool) {c : Char} {cs : List Char}
    (hc : c.isDigit = true) {text : String}
    (htext : text.toList = (if negative then ['-'] else []) ++ c :: cs) :
    read? text = readDecimal? negative (c :: cs) := by
  have hsign : takeSign text.toList = (negative, c :: cs) := by
    rw [htext]
    cases negative with
    | true => rfl
    | false =>
      have hminus : c ≠ '-' := by rintro rfl; exact absurd hc (by decide)
      have hplus : c ≠ '+' := by rintro rfl; exact absurd hc (by decide)
      show takeSign (c :: cs) = _
      unfold takeSign
      split
      · exact absurd (List.cons.inj ‹_›).1 hminus
      · exact absurd (List.cons.inj ‹_›).1 hplus
      · rfl
  have hword (word : String) {first : Char} {rest : List Char}
      (hlist : word.toList = first :: rest) (hfirst : first.isDigit = false) :
      (String.ofList ((c :: cs).map Char.toLower) == word) = false := by
    refine beq_eq_false_iff_ne.2 fun heq => ?_
    rw [← heq, String.toList_ofList, List.map_cons, toLower_of_isDigit hc] at hlist
    rw [← (List.cons.inj hlist).1, hc] at hfirst
    exact Bool.false_ne_true hfirst.symm
  unfold read?
  rw [hsign]
  dsimp only
  rw [hword "inf" rfl (by decide), hword "infinity" rfl (by decide),
    hword "nan" rfl (by decide)]
  rfl

theorem Magnitude.eq_zero {x : Magnitude} (h : x.mantissa = 0) : x = zero := by
  have hexponent : x.exponent = -1074 := by
    refine x.canonical.2.2.2.resolve_left fun hle => ?_
    rw [h] at hle
    exact absurd hle (by decide)
  cases x
  subst h hexponent
  rfl

/-- Digits stand for one decimal, whether zeros at their end are written or left out. -/
theorem decimal_eq_of_cut {digits n places zeros : Nat} {exponent : Int}
    (hvalue : digits * powerOfTen zeros = n * powerOfTen exponent.toNat)
    (hplaces : places + zeros = (-exponent).toNat) :
    (digits : ℚ) * 10 ^ (-(places : ℤ)) = n * 10 ^ exponent := by
  have hten : (10 : ℚ) ≠ 0 := by norm_num
  have hcast : (digits : ℚ) * 10 ^ (zeros : ℤ) = n * 10 ^ (exponent.toNat : ℤ) := by
    rw [← natCast_powerOfTen, ← natCast_powerOfTen]
    exact_mod_cast hvalue
  calc (digits : ℚ) * 10 ^ (-(places : ℤ))
      = digits * 10 ^ (zeros : ℤ) * 10 ^ (-((places + zeros : Nat) : ℤ)) := by
        rw [mul_assoc, ← zpow_add₀ hten]
        congr 2
        push_cast
        ring
    _ = n * 10 ^ exponent := by
        rw [hcast, hplaces, mul_assoc, ← zpow_add₀ hten]
        congr 2
        omega

/-- Reading the text of a finite number gives the number. -/
theorem Binary64.read?_text {x : Binary64} (h : x.isFinite = true) : read? x.text = some x := by
  obtain ⟨negative, x, rfl⟩ : ∃ negative magnitude, x = finite negative magnitude := by
    cases x with
    | finite negative x => exact ⟨negative, x, rfl⟩
    | _ => exact absurd h Bool.false_ne_true
  have hsign (text : String) : ((if negative then "-" else "") ++ text).toList =
      (if negative then ['-'] else []) ++ text.toList := by
    rw [String.toList_append]
    cases negative <;> rfl
  unfold text
  dsimp only
  split
  · rename_i hzero
    rw [Magnitude.eq_zero (beq_iff_eq.1 hzero)]
    cases negative <;> decide +kernel
  · rename_i hx
    have hx : x.mantissa ≠ 0 := by simpa using hx
    obtain ⟨whole, fraction, zeros, htext, hwhole, hfraction, hvalue, hplaces⟩ :=
      positional_eq x.rounding.shortest.1 x.rounding.shortest.2
    obtain ⟨c, rest, rfl⟩ := List.exists_cons_of_ne_nil hwhole.1
    have hread := readDecimal?_digits negative hwhole hfraction
    rw [List.cons_append] at hread htext
    rw [read?_of_digit negative (hwhole.2 c List.mem_cons_self) ((hsign _).trans (by rw [htext])),
      hread, ofDecimal_eq negative (x := x) ?_ hx]
    -- what is read is the decimal that was written
    rw [decimal_eq_of_cut hvalue hplaces]
    exact Magnitude.attracts_shortest hx

/-- The digits of a whole number are read as the number nearest to it. -/
theorem Binary64.read?_toString {n : Int} (h : Scalar.fitsIn 64 n = true) :
    read? (toString n) = some (ofInt n) := by
  have hcount : digitCount n.natAbs ≤ 20 := by
    refine (Nat.length_toDigits_le_iff (by decide) (by decide)).2 ?_
    simp only [Scalar.fitsIn, Bool.and_eq_true, decide_eq_true_eq] at h
    omega
  have htext := toList_toString_int n
  have hdigits := areDigits_toDigits n.natAbs
  have hread := readDecimal?_digits (decide (n < 0)) hdigits
    (show ∀ c ∈ ([] : List Char), c.isDigit = true by simp)
  rw [List.isEmpty_nil, if_pos rfl, List.append_nil, natOfDigits_toDigits] at hread
  obtain ⟨c, rest, hcons⟩ := List.exists_cons_of_ne_nil hdigits.1
  rw [hcons] at htext hread hdigits
  rw [read?_of_digit _ (hdigits.2 c List.mem_cons_self) htext, hread]
  unfold ofDecimal ofInt
  dsimp only
  by_cases hzero : n = 0
  · subst hzero
    rfl
  · have hpos : n.natAbs ≠ 0 := Int.natAbs_ne_zero.2 hzero
    have hsmall : ¬ ((n.natAbs == 0 || decide (-((0 : Nat) : Int) + digitCount n.natAbs < -400)) =
        true) := by simp [hpos]
    rw [List.length_nil, if_neg hsmall, if_neg (by omega)]
    show some (ofQuotient _ (n.natAbs * powerOfTen 0) (powerOfTen 0)) = _
    rw [powerOfTen_zero, Nat.mul_one]

end AgentConvert
