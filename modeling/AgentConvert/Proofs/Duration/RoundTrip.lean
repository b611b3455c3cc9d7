import AgentConvert.Proofs.Duration.Reading
import AgentConvert.Proofs.Formatted.Messages
import AgentConvert.Proofs.Formatted.Numerals

/-!
# A written duration is read back

The text of a duration spells components that last as long as it does (`lasts_chars`), each with at
most nine digits behind the point, so all of them are read. It has no blanks at its ends
(`trimChars_chars`), and reading it gives the duration back, or refuses it above the greatest length
that can be read (`read_text`).
-/

namespace AgentConvert.Duration

/-- Whether `cs` spells components from which so many nanoseconds are read. -/
def Lasts (cs : List Char) (nanos : ℕ) : Prop :=
  ∃ components, AreSpelled components cs ∧ (components.map (·.cut.nanos)).sum = nanos

variable {cs cs' unit : List Char} {m n whole fraction places scale : ℕ}

theorem lasts_nil : Lasts [] 0 := ⟨[], areSpelled_nil.2 rfl, rfl⟩

theorem Lasts.append (h : Lasts cs m) (h' : Lasts cs' n) : Lasts (cs ++ cs') (m + n) := by
  obtain ⟨components, hspelled, rfl⟩ := h
  obtain ⟨components', hspelled', rfl⟩ := h'
  exact ⟨components ++ components', hspelled.append hspelled', by
    rw [List.map_append, List.sum_append]⟩

theorem lasts_component {c : Component} (h : c.SpelledBy cs) (hshort : c.fraction.length ≤ 20) :
    Lasts cs c.nanos := by
  refine ⟨[c], areSpelled_cons.2 ⟨cs, [], h, areSpelled_nil.2 rfl, (List.append_nil cs).symm⟩, ?_⟩
  rw [List.map_singleton, List.sum_singleton, Component.cut_of_length_le hshort]

/-! ## Numbers -/

theorem isSome_of_scale (h : (unitNanos? unit).map BitVec.toNat = some scale) :
    (unitNanos? unit).isSome = true := by
  rw [← Option.isSome_map, h]
  rfl

/-- A whole number of units is read without a loss. -/
theorem lasts_toDigits (n : ℕ) (hunit : (unitNanos? unit).map BitVec.toNat = some scale) :
    Lasts (Nat.toDigits 10 n ++ unit) (n * scale) := by
  have hdigits := areDigits_toDigits n
  have hspelled : Component.SpelledBy ⟨Nat.toDigits 10 n, [], unit⟩ (Nat.toDigits 10 n ++ unit) :=
    ⟨hdigits.2, fun d hd => absurd hd List.not_mem_nil, .inl hdigits.1, isSome_of_scale hunit,
      .inr ⟨rfl, rfl⟩⟩
  have hnanos := Component.nanos_eq ⟨Nat.toDigits 10 n, [], unit⟩
  rw [Component.unitNanos, hunit, Option.getD_some, natOfDigits_toDigits] at hnanos
  have hlasts := lasts_component hspelled (Nat.zero_le _)
  rw [hnanos] at hlasts
  simpa [natOfDigits] using hlasts

/-- A number with a fraction is read without a loss, if the unit has as many nanoseconds as the
places of the fraction count. -/
theorem lasts_withFraction (hunit : (unitNanos? unit).map BitVec.toNat = some scale)
    (hscale : scale = 10 ^ places) (hplaces : places ≤ 20) (hfraction : fraction < scale) :
    Lasts (withFraction whole fraction places ++ unit) (whole * scale + fraction) := by
  subst hscale
  unfold withFraction
  by_cases hzero : fraction = 0
  · subst hzero
    exact lasts_toDigits whole hunit
  rw [if_neg (by simpa using hzero)]
  have hpos : 0 < places := by
    refine Nat.pos_of_ne_zero fun h => hzero ?_
    rw [h] at hfraction
    omega
  have hlength := (Nat.length_toDigits_le_iff (by decide) hpos).2 hfraction
  show Lasts (Nat.toDigits 10 whole ++ '.' :: Text.dropEndWhile (· == '0')
    (List.replicate (places - (Nat.toDigits 10 fraction).length) '0' ++
      Nat.toDigits 10 fraction) ++ unit) _
  -- the padded digits have all the places and spell the fraction
  obtain ⟨padded, hpadded⟩ : ∃ padded, padded =
      List.replicate (places - (Nat.toDigits 10 fraction).length) '0' ++ Nat.toDigits 10 fraction :=
    ⟨_, rfl⟩
  have hall : ∀ d ∈ padded, d.isDigit = true := fun d hd =>
    (List.mem_append.1 (hpadded ▸ hd)).elim isDigit_of_mem_zeros ((areDigits_toDigits fraction).2 d)
  have hcount : padded.length = places := by
    rw [hpadded, List.length_append, List.length_replicate]
    omega
  have hvalue : natOfDigits padded = fraction := by
    rw [hpadded, natOfDigits_append, natOfDigits_zeros, natOfDigits_toDigits, Nat.zero_mul,
      Nat.zero_add]
  rw [← hpadded]
  -- without the zeros at the end they spell the fraction in fewer places
  obtain ⟨zeros, hzeros⟩ := Text.dropEndWhile_append_replicate '0' padded
  generalize Text.dropEndWhile (· == '0') padded = digits at hzeros
  subst hzeros
  rw [List.length_append, List.length_replicate] at hcount
  rw [natOfDigits_append, natOfDigits_zeros, List.length_replicate, Nat.add_zero] at hvalue
  have hspelled : Component.SpelledBy ⟨Nat.toDigits 10 whole, digits, unit⟩
      (Nat.toDigits 10 whole ++ '.' :: (digits ++ unit)) :=
    ⟨(areDigits_toDigits whole).2, fun d hd => hall d (List.mem_append_left _ hd),
      .inl (areDigits_toDigits whole).1, isSome_of_scale hunit, .inl rfl⟩
  have hnanos : Component.nanos ⟨Nat.toDigits 10 whole, digits, unit⟩ =
      whole * 10 ^ places + fraction := by
    have hquotient : natOfDigits digits * 10 ^ places / 10 ^ digits.length = fraction := by
      have hpower : 0 < 10 ^ digits.length := Nat.pow_pos (by decide)
      rw [← hcount, Nat.pow_add, Nat.mul_left_comm, Nat.mul_div_cancel_left _ hpower]
      exact hvalue
    rw [Component.nanos_eq, Component.unitNanos, hunit, Option.getD_some, natOfDigits_toDigits,
      hquotient]
  rw [List.append_assoc, List.cons_append, ← hnanos]
  exact lasts_component hspelled (Nat.le_trans (by omega : digits.length ≤ places) hplaces)

/-! ## Texts -/

/-- Units of which there are none may be left out. -/
theorem lasts_ite {shown : Prop} [Decidable shown]
    (hunit : (unitNanos? unit).map BitVec.toNat = some scale) (hhidden : ¬shown → n = 0) :
    Lasts (if shown then Nat.toDigits 10 n ++ unit else []) (n * scale) := by
  split
  · exact lasts_toDigits n hunit
  · rename_i h
    rw [hhidden h, Nat.zero_mul]
    exact lasts_nil

/-- What is written lasts as long as the duration. -/
theorem lasts_chars (d : Duration) : Lasts d.chars d.nanos := by
  obtain ⟨n⟩ := d
  show Lasts (if n == 0 then _ else if n < 1000 then _ else if n < 1000000 then _
    else if n < 1000000000 then _ else _) n
  split
  · rename_i hzero
    rw [eq_of_beq hzero]
    have hnone : Lasts (Nat.toDigits 10 0 ++ ['s']) (0 * 1000000000) := lasts_toDigits 0 rfl
    rwa [Nat.zero_mul] at hnone
  split
  · have hnanos : Lasts (Nat.toDigits 10 n ++ ['n', 's']) (n * 1) := lasts_toDigits n rfl
    rwa [Nat.mul_one] at hnanos
  split
  · have hmicros : Lasts (withFraction (n / 1000) (n % 1000) 3 ++ ['µ', 's'])
        (n / 1000 * 1000 + n % 1000) :=
      lasts_withFraction rfl rfl (by decide) (Nat.mod_lt n (by decide))
    rwa [Nat.div_add_mod'] at hmicros
  split
  · have hmillis : Lasts (withFraction (n / 1000000) (n % 1000000) 6 ++ ['m', 's'])
        (n / 1000000 * 1000000 + n % 1000000) :=
      lasts_withFraction rfl rfl (by decide) (Nat.mod_lt n (by decide))
    rwa [Nat.div_add_mod'] at hmillis
  · obtain ⟨seconds, hseconds⟩ : ∃ seconds, seconds = n / 1000000000 := ⟨_, rfl⟩
    obtain ⟨minutes, hminutes⟩ : ∃ minutes, minutes = seconds % 3600 / 60 := ⟨_, rfl⟩
    have hhours : Lasts (if seconds / 3600 > 0 then Nat.toDigits 10 (seconds / 3600) ++ ['h']
        else []) (seconds / 3600 * 3600000000000) := lasts_ite rfl (by omega)
    have hrest : Lasts (if seconds / 3600 > 0 || minutes > 0 then Nat.toDigits 10 minutes ++ ['m']
        else []) (minutes * 60000000000) := lasts_ite rfl (by simp)
    have hlast : Lasts (withFraction (seconds % 60) (n % 1000000000) 9 ++ ['s'])
        (seconds % 60 * 1000000000 + n % 1000000000) :=
      lasts_withFraction rfl rfl (by decide) (Nat.mod_lt n (by decide))
    -- hours, minutes and seconds with their fraction add up to the whole
    have hsum : seconds / 3600 * 3600000000000 + minutes * 60000000000 +
        (seconds % 60 * 1000000000 + n % 1000000000) = n := by omega
    have hall := (hhours.append hrest).append hlast
    rw [hsum, hminutes, hseconds, ← List.append_assoc] at hall
    exact hall

/-- The text of a duration ends in its last unit. -/
theorem exists_append_second (d : Duration) : ∃ cs, d.chars = cs ++ ['s'] := by
  unfold chars
  dsimp only
  split
  · exact ⟨['0'], rfl⟩
  split
  · exact ⟨_, (List.append_assoc _ ['n'] ['s']).symm⟩
  split
  · exact ⟨_, (List.append_assoc _ ['µ'] ['s']).symm⟩
  split
  · exact ⟨_, (List.append_assoc _ ['m'] ['s']).symm⟩
  · exact ⟨_, rfl⟩

theorem isBlank_of_not_inUnit {c : Char} (h : inUnit c = false) : Text.isBlank c = false := by
  rw [inUnit, Bool.not_eq_false', Bool.or_eq_true, beq_iff_eq] at h
  rcases h with hdigit | rfl
  · exact isBlank_of_isIdentContinue (by simp [isIdentContinue, Char.isAlphanum, hdigit])
  · decide

/-- The text of a duration has no blanks at its ends. -/
theorem trimChars_chars (d : Duration) : Text.trimChars d.chars = d.chars := by
  obtain ⟨components, hspelled, -⟩ := lasts_chars d
  obtain ⟨cs, hcs⟩ := exists_append_second d
  have hhead : d.chars.dropWhile Text.isBlank = d.chars :=
    Text.dropWhile_eq_self fun c hc => isBlank_of_not_inUnit (hspelled.head? c hc)
  have hlast : d.chars.reverse.dropWhile Text.isBlank = d.chars.reverse := by
    refine Text.dropWhile_eq_self ?_
    rw [hcs, List.reverse_append]
    rintro c ⟨⟩
    decide
  rw [Text.trimChars, hhead, Text.dropEndWhile, hlast, List.reverse_reverse]

/-- The text of a duration is read as the duration, or refused as too long. -/
theorem read_text_eq (d : Duration) :
    read d.text = if d.nanos ≤ greatest then .ok d else .error .outOfRange := by
  obtain ⟨components, hspelled, hsum⟩ := lasts_chars d
  obtain ⟨cs, hcs⟩ := exists_append_second d
  have hne : components ≠ [] := by
    rintro rfl
    rw [hcs] at hspelled
    exact absurd (areSpelled_nil.1 hspelled) (by simp)
  have htext : Text.trimChars d.text.toList = d.chars := by
    rw [text, String.toList_ofList, trimChars_chars]
  rw [read_of_areSpelled hne (htext ▸ hspelled), hsum]

/-- A duration that can be read is read from its text, which is that of no other such duration; a
longer one is refused as out of range. -/
theorem read_text : (∀ d : Duration, (read d.text).mapError Fault.reason =
      if d.nanos ≤ greatest then .ok d else .error "value out of range") ∧
    Set.InjOn text {d | d.nanos ≤ greatest} := by
  refine ⟨fun d => ?_, fun d hd d' hd' h => ?_⟩
  · rw [read_text_eq]
    split
    · rfl
    · rfl
  · have hread := (read_text_eq d).trans (if_pos hd)
    have hread' := (read_text_eq d').trans (if_pos hd')
    rw [h, hread'] at hread
    exact (Except.ok.inj hread).symm

end AgentConvert.Duration
