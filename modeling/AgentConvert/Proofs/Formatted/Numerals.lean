import AgentConvert.Number.Shortest
import AgentConvert.Proofs.Document.Grammar
import AgentConvert.Text.Blank

/-!
# Spelled numbers

Whole numbers and finite numbers are written as the grammar has numbers: `isNumber_int` and
`isNumber_text`. A decimal in positional notation leaves nothing out but zeros at its end
(`positional_eq`).
-/

namespace AgentConvert

theorem areDigits_toDigits (n : Nat) : AreDigits (Nat.toDigits 10 n) := by
  refine ⟨fun h => ?_, fun c hc => Nat.isDigit_of_mem_toDigits (by decide) (by decide) hc⟩
  have hlength := Nat.length_toDigits_pos (b := 10) (n := n)
  rw [h] at hlength
  exact absurd hlength (by simp)

theorem AreDigits.append {as bs : List Char} (h : AreDigits as)
    (hb : ∀ c ∈ bs, c.isDigit = true) : AreDigits (as ++ bs) :=
  ⟨by simp [h.1], fun c hc => (List.mem_append.1 hc).elim (h.2 c) (hb c)⟩

theorem isDigit_of_mem_zeros {n : Nat} {c : Char} (h : c ∈ List.replicate n '0') :
    c.isDigit = true := by
  rw [List.eq_of_mem_replicate h]
  decide

/-- Digits are a number, with a minus or without. -/
theorem isNumber_digits {cs : List Char} (h : AreDigits cs) (negative : Bool) :
    IsNumber ((if negative then ['-'] else []) ++ cs) :=
  ⟨if negative then ['-'] else [], cs, [], [], by simp, by cases negative <;> simp, h, .inl rfl,
    .inl rfl⟩

/-- A whole number is its digits, behind a minus if it is negative. -/
theorem toList_toString_int (n : Int) : (toString n).toList =
    (if decide (n < 0) then ['-'] else []) ++ Nat.toDigits 10 n.natAbs := by
  cases n with
  | ofNat m => exact Nat.toList_repr
  | negSucc m =>
    show ("-" ++ (m + 1).repr).toList = _
    rw [String.toList_append, Nat.toList_repr, decide_eq_true (Int.negSucc_lt_zero m)]
    rfl

theorem isNumber_int (n : Int) : IsNumber (toString n).toList := by
  rw [toList_toString_int]
  exact isNumber_digits (areDigits_toDigits _) _

/-! ## Decimals -/

theorem natOfDigits_toDigits (n : Nat) : natOfDigits (Nat.toDigits 10 n) = n :=
  Nat.ofDigitChars_ten_toDigits

theorem natOfDigits_zeros (zeros : Nat) : natOfDigits (List.replicate zeros '0') = 0 := by
  induction zeros with
  | zero => rfl
  | succ zeros ih =>
    rw [List.replicate_succ', natOfDigits_append, ih, Nat.zero_mul]
    rfl

/-- Digits of which the last ones lose the zeros at their end count what they did, with as many
zeros behind them. -/
theorem exists_cut {digits : List Char} {places : Nat} (h : places ≤ digits.length) :
    ∃ fraction zeros,
      Text.dropEndWhile (· == '0') (digits.drop (digits.length - places)) = fraction ∧
      natOfDigits (digits.take (digits.length - places) ++ fraction) * powerOfTen zeros =
        natOfDigits digits ∧
      fraction.length + zeros = places ∧ ∀ c ∈ fraction, c ∈ digits := by
  obtain ⟨zeros, hzeros⟩ :=
    Text.dropEndWhile_append_replicate '0' (digits.drop (digits.length - places))
  refine ⟨_, zeros, rfl, ?_, ?_, fun c hc => ?_⟩
  · have hmoved := natOfDigits_append (digits.take (digits.length - places) ++
      Text.dropEndWhile (· == '0') (digits.drop (digits.length - places)))
      (List.replicate zeros '0')
    rw [List.append_assoc, hzeros, List.take_append_drop, natOfDigits_zeros,
      List.length_replicate, Nat.add_zero] at hmoved
    exact hmoved.symm
  · have hcount := congrArg List.length hzeros
    rw [List.length_append, List.length_replicate, List.length_drop] at hcount
    omega
  · have hmem := List.mem_append_left (List.replicate zeros '0') hc
    rw [hzeros] at hmem
    exact List.mem_of_mem_drop hmem

/-- A positional decimal is digits, and digits behind a point if there are any; zeros at its end are
all that is left out of it. -/
theorem positional_eq (n : Nat) (exponent : Int) : ∃ whole fraction zeros,
    (positional n exponent).toList =
        whole ++ (if fraction.isEmpty then [] else '.' :: fraction) ∧
      AreDigits whole ∧ (∀ c ∈ fraction, c.isDigit = true) ∧
      natOfDigits (whole ++ fraction) * powerOfTen zeros = n * powerOfTen exponent.toNat ∧
      fraction.length + zeros = (-exponent).toNat := by
  have hdigits := areDigits_toDigits n
  unfold positional
  dsimp only
  split
  · refine ⟨Nat.toDigits 10 n ++ List.replicate exponent.toNat '0', [], 0, ?_, ?_, by simp, ?_, ?_⟩
    · rw [String.toList_ofList, List.isEmpty_nil, if_pos rfl, List.append_nil]
    · exact hdigits.append fun c hc => isDigit_of_mem_zeros hc
    · rw [List.append_nil, natOfDigits_append, natOfDigits_zeros, natOfDigits_toDigits,
        List.length_replicate, powerOfTen_zero, Nat.mul_one, Nat.add_zero]
    · rw [List.length_nil]
      omega
  · generalize hplaces : (-exponent).toNat = places
    generalize hpadded : List.replicate (places + 1 - (Nat.toDigits 10 n).length) '0' ++
      Nat.toDigits 10 n = padded
    have hall : ∀ c ∈ padded, c.isDigit = true := by
      rw [← hpadded]
      exact fun c hc => (List.mem_append.1 hc).elim isDigit_of_mem_zeros (hdigits.2 c)
    have hvalue : natOfDigits padded = n := by
      rw [← hpadded, natOfDigits_append, natOfDigits_zeros, natOfDigits_toDigits, Nat.zero_mul,
        Nat.zero_add]
    have hlength : places < padded.length := by
      rw [← hpadded, List.length_append, List.length_replicate]
      omega
    obtain ⟨fraction, zeros, hcut, hmoved, hcount, hmem⟩ := exists_cut (Nat.le_of_lt hlength)
    refine ⟨padded.take (padded.length - places), fraction, zeros, ?_,
      ⟨fun h => ?_, fun c hc => ?_⟩, fun c hc => hall c (hmem c hc), ?_, hcount⟩
    · rw [String.toList_ofList, ← hcut]
      rfl
    · rw [List.take_eq_nil_iff] at h
      rcases h with h | h
      · omega
      · rw [h] at hlength
        exact absurd hlength (by simp)
    · exact hall c (List.mem_of_mem_take hc)
    · have hexponent : exponent.toNat = 0 := by omega
      rw [hmoved, hvalue, hexponent, powerOfTen_zero, Nat.mul_one]

theorem isFraction_of_digits {fraction : List Char} (h : ∀ c ∈ fraction, c.isDigit = true) :
    IsFraction (if fraction.isEmpty then [] else '.' :: fraction) := by
  cases fraction with
  | nil => exact .inl rfl
  | cons c fraction => exact .inr ⟨c :: fraction, rfl, by simp, h⟩

theorem isNumber_text {x : Binary64} (h : x.isFinite = true) : IsNumber x.text.toList := by
  cases x with
  | finite negative x =>
    rw [Binary64.text]
    split
    · cases negative with
      | false => exact isNumber_digits (show AreDigits ['0'] by decide) false
      | true => exact isNumber_digits (show AreDigits ['0'] by decide) true
    · obtain ⟨whole, fraction, -, heq, hwhole, hfraction, -⟩ :=
        positional_eq x.rounding.shortest.1 x.rounding.shortest.2
      refine ⟨if negative then ['-'] else [], whole, _, [], ?_, ?_, hwhole,
        isFraction_of_digits hfraction, .inl rfl⟩
      · rw [String.toList_append, heq]
        cases negative <;> simp
      · cases negative <;> simp
  | infinite negative => exact absurd h Bool.false_ne_true
  | nan => exact absurd h Bool.false_ne_true

end AgentConvert
