import AgentConvert.Proofs.Duration.Component
import Mathlib.Algebra.Order.BigOperators.Group.List

/-!
# Durations are read exactly

A text denotes the sum of the components that it spells (`Denotes`). What is read of it is the sum
of what is left of the components when their fractions are cut off behind 20 digits (`read_iff`).
That is the sum of the components themselves, unless digits that are cut off change one of them
(`denotes_cut_iff`).
-/

namespace AgentConvert.Duration

/-! ## What is read of a text -/

/-- Whether `cs` denotes `d`: it is the `0` without a unit, or components that add up to `d`, with
`nanos` for what each of them lasts. -/
def Denotes (nanos : Component → ℕ) (cs : List Char) (d : Duration) : Prop :=
  cs = ['0'] ∧ d.nanos = 0 ∨ ∃ components, components ≠ [] ∧ AreSpelled components cs ∧
    (components.map nanos).sum = d.nanos ∧ d.nanos ≤ greatest

variable {components : List Component} {cs : List Char}

theorem greatest_lt_size : greatest < Wide.size := by decide

/-- A sum that is refused above the greatest length needs no more than 128 bits. -/
theorem filter_add_eq (total : Wide) (nanos : ℕ) :
    ((Wide.ofNat? nanos).bind total.add?).filter (·.toNat ≤ greatest) =
      if total.toNat + nanos ≤ greatest then Wide.ofNat? (total.toNat + nanos) else none := by
  have hsize := greatest_lt_size
  cases hnanos : Wide.ofNat? nanos with
  | none =>
    have hlarge := Wide.ofNat?_eq_none.1 hnanos
    rw [if_neg (by omega)]
    rfl
  | some a =>
    rw [Option.bind_some, Wide.add?_eq, Wide.ofNat?_eq_some.1 hnanos]
    cases hsum : Wide.ofNat? (total.toNat + nanos) with
    | none => exact (ite_self none).symm
    | some sum =>
      rw [Option.filter_some, Wide.ofNat?_eq_some.1 hsum]
      simp only [decide_eq_true_eq]

/-- Components add up to what is left of them. The induction is on the components; the sum so far is
at most the greatest length. -/
theorem sumComponents_eq (h : AreSpelled components cs) (total : Wide)
    (htotal : total.toNat ≤ greatest) :
    (sumComponents total cs).map BitVec.toNat =
      if total.toNat + (components.map (·.cut.nanos)).sum ≤ greatest
      then .ok (total.toNat + (components.map (·.cut.nanos)).sum) else .error .outOfRange := by
  induction components generalizing total cs with
  | nil =>
    rw [areSpelled_nil.1 h, sumComponents]
    exact (if_pos htotal).symm
  | cons c components ih =>
    obtain ⟨part, hpart, rfl, hrest, hne⟩ := h.split_eq
    obtain ⟨unit, hunit⟩ := Option.isSome_iff_exists.1 hpart.unit
    have hdigits : ¬((Component.split cs).1.whole.isEmpty &&
        (Component.split cs).1.fraction.isEmpty) = true := by
      rw [Bool.and_eq_true, List.isEmpty_iff, List.isEmpty_iff]
      exact fun h' => hpart.digits.elim (· h'.1) (· h'.2)
    rw [sumComponents, if_neg (mt List.isEmpty_iff.1 hne), if_neg hdigits,
      dif_neg (ne_nil_of_unit hunit), hunit]
    simp only [Component.componentNanos?_eq hpart.fraction hunit, filter_add_eq]
    rw [List.map_cons, List.sum_cons, ← Nat.add_assoc]
    by_cases hfits : total.toNat + (Component.split cs).1.cut.nanos ≤ greatest
    · obtain ⟨next, hnext⟩ : ∃ next,
          Wide.ofNat? (total.toNat + (Component.split cs).1.cut.nanos) = some next :=
        ⟨_, if_pos (hfits.trans_lt greatest_lt_size)⟩
      have hvalue := Wide.ofNat?_eq_some.1 hnext
      rw [if_pos hfits, hnext, ← hvalue]
      exact ih hrest next (hvalue ▸ hfits)
    · rw [if_neg hfits, if_neg fun h' => hfits (Nat.le_trans (Nat.le_add_right ..) h')]
      rfl

/-- What adds up is spelled by components. -/
theorem exists_areSpelled {total sum : Wide} (h : sumComponents total cs = .ok sum) :
    ∃ components, AreSpelled components cs := by
  fun_induction sumComponents total cs with
  | case1 total cs hempty => exact ⟨[], areSpelled_nil.2 (List.isEmpty_iff.1 hempty)⟩
  | case2 | case3 | case4 | case5 => cases h
  | case6 total cs hne c hdigits hunit unit hnanos nanos next hnext ih =>
    obtain ⟨components, hrest⟩ := ih h
    have hsome : c.whole ≠ [] ∨ c.fraction ≠ [] := by
      simpa [← not_and_or] using hdigits
    obtain ⟨part, hpart, hcs⟩ := Component.spelledBy_split hsome (by rw [hnanos]; rfl)
    exact ⟨c :: components, areSpelled_cons.2 ⟨part, _, hpart, hrest, hcs⟩⟩

theorem not_areSpelled_zero (hne : components ≠ []) : ¬AreSpelled components ['0'] := by
  intro h
  obtain ⟨c, components, rfl⟩ := List.exists_cons_of_ne_nil hne
  obtain ⟨part, hpart, hc, -⟩ := h.split_eq
  have hunit := hpart.unit
  rw [← hc] at hunit
  exact absurd hunit (by decide)

theorem ne_nil_of_areSpelled (hne : components ≠ []) (h : AreSpelled components cs) : cs ≠ [] := by
  obtain ⟨c, components, rfl⟩ := List.exists_cons_of_ne_nil hne
  exact h.split_eq.choose_spec.2.2.2

theorem read_eq_sum {s : String} (hzero : Text.trimChars s.toList ≠ ['0'])
    (hempty : Text.trimChars s.toList ≠ []) :
    read s = ((sumComponents 0 (Text.trimChars s.toList)).map BitVec.toNat).map Duration.mk := by
  rw [read]
  show (if _ == _ then _ else if _ then _ else _) = _
  rw [if_neg (mt beq_iff_eq.1 hzero), if_neg (mt List.isEmpty_iff.1 hempty)]
  cases sumComponents 0 (Text.trimChars s.toList) with
  | ok total => rfl
  | error fault => rfl

/-- Components are read as the sum of what is left of them. -/
theorem read_of_areSpelled {s : String} (hne : components ≠ [])
    (h : AreSpelled components (Text.trimChars s.toList)) :
    read s = if (components.map (·.cut.nanos)).sum ≤ greatest
      then .ok ⟨(components.map (·.cut.nanos)).sum⟩ else .error .outOfRange := by
  have hzero : Text.trimChars s.toList ≠ ['0'] := fun h' => not_areSpelled_zero hne (h' ▸ h)
  have hsum := sumComponents_eq h 0 (Nat.zero_le _)
  rw [read_eq_sum hzero (ne_nil_of_areSpelled hne h), hsum, show (0 : Wide).toNat = 0 from rfl,
    Nat.zero_add]
  split
  · rfl
  · rfl

/-- A duration is read from the texts that denote it with what is left of the components. -/
theorem read_iff (s : String) (d : Duration) :
    read s = .ok d ↔ Denotes (·.cut.nanos) (Text.trimChars s.toList) d := by
  constructor
  · intro h
    by_cases hzero : Text.trimChars s.toList = ['0']
    · rw [read, hzero] at h
      cases h
      exact .inl ⟨hzero, rfl⟩
    by_cases hempty : Text.trimChars s.toList = []
    · rw [read, hempty] at h
      cases h
    obtain ⟨total, htotal⟩ : ∃ total, sumComponents 0 (Text.trimChars s.toList) = .ok total := by
      rw [read_eq_sum hzero hempty] at h
      cases hsum : sumComponents 0 (Text.trimChars s.toList) with
      | ok total => exact ⟨total, rfl⟩
      | error fault =>
        rw [hsum] at h
        cases h
    obtain ⟨components, hspelled⟩ := exists_areSpelled htotal
    have hne : components ≠ [] := by
      rintro rfl
      exact hempty (areSpelled_nil.1 hspelled)
    rw [read_of_areSpelled hne hspelled] at h
    split at h
    · rename_i hfits
      cases h
      exact .inr ⟨components, hne, hspelled, rfl, hfits⟩
    · cases h
  · rintro (⟨hzero, hd⟩ | ⟨components, hne, hspelled, hsum, hd⟩)
    · rw [read, hzero]
      exact congrArg Except.ok (congrArg Duration.mk hd.symm)
    · rw [read_of_areSpelled hne hspelled, hsum, if_pos hd]

/-- Parts that are no larger and add up to the same are the same. -/
theorem eq_of_sum_eq {f g : Component → ℕ} (hle : ∀ c ∈ components, f c ≤ g c)
    (hsum : (components.map f).sum = (components.map g).sum) : ∀ c ∈ components, f c = g c := by
  intro c hc
  by_contra hne
  have hlt := List.sum_lt_sum f g hle ⟨c, hc, Nat.lt_of_le_of_ne (hle c hc) hne⟩
  omega

theorem AreSpelled.cut_nanos (h : AreSpelled components cs) : ∀ c ∈ components,
    c.cut.nanos ≤ c.nanos ∧ c.nanos ≤ c.cut.nanos + 1 ∧
      (c.fraction.length ≤ 20 ∨ c.unitNanos ≤ 1000000000 → c.cut.nanos = c.nanos) := by
  intro c hc
  obtain ⟨part, hpart⟩ := h.spelledBy hc
  exact Component.cut_nanos hpart

/-- A text that spells components denotes their sum only, whatever each of them lasts. -/
theorem AreSpelled.denotes_iff {nanos : Component → ℕ} {d : Duration} (hne : components ≠ [])
    (h : AreSpelled components cs) :
    Denotes nanos cs d ↔ (components.map nanos).sum = d.nanos ∧ d.nanos ≤ greatest := by
  constructor
  · rintro (⟨rfl, -⟩ | ⟨components', -, hspelled, hsum⟩)
    · exact absurd h (not_areSpelled_zero hne)
    · exact h.unique hspelled ▸ hsum
  · exact fun hsum => .inr ⟨components, hne, h, hsum⟩

/-- A text denotes the same with all digits of its fractions as with those that are read, just if
what is cut off changes none of its components. -/
theorem denotes_cut_iff : (∀ d, Denotes (·.cut.nanos) cs d ↔ Denotes Component.nanos cs d) ↔
    ∀ components, AreSpelled components cs →
      (components.map (·.cut.nanos)).sum ≤ greatest → ∀ c ∈ components, c.cut.nanos = c.nanos := by
  constructor
  · intro h components hspelled hfits
    by_cases hne : components = []
    · rw [hne]
      exact fun c hc => absurd hc List.not_mem_nil
    · let total : Duration := ⟨(components.map (·.cut.nanos)).sum⟩
      have hcut : Denotes (·.cut.nanos) cs total := (hspelled.denotes_iff hne).2 ⟨rfl, hfits⟩
      obtain ⟨hsum, -⟩ := (hspelled.denotes_iff hne).1 ((h total).1 hcut)
      exact eq_of_sum_eq (fun c hc => (hspelled.cut_nanos c hc).1) hsum.symm
  · intro h d
    constructor
    · rintro (hzero | ⟨components, hne, hspelled, hsum, hd⟩)
      · exact .inl hzero
      · have hsame := List.map_congr_left (h components hspelled (hsum ▸ hd))
        exact .inr ⟨components, hne, hspelled, hsame ▸ hsum, hd⟩
    · rintro (hzero | ⟨components, hne, hspelled, hsum, hd⟩)
      · exact .inl hzero
      · have hle : (components.map (·.cut.nanos)).sum ≤ (components.map Component.nanos).sum :=
          List.sum_le_sum fun c hc => (hspelled.cut_nanos c hc).1
        have hsame := List.map_congr_left (h components hspelled (hle.trans (hsum ▸ hd)))
        exact .inr ⟨components, hne, hspelled, hsame ▸ hsum, hd⟩

/-- A duration is read from the texts that denote it with what is left of each component when its
fraction is cut off behind 20 digits. So the reader is exact just where this changes no component;
it takes at most a nanosecond from a component, and only from one with more digits and a unit above
a second. What the reader computes without a check fits for whatever component it splits off a
text. -/
theorem read_denotes (s : String) :
    (∀ d, read s = .ok d ↔ Denotes (·.cut.nanos) (Text.trimChars s.toList) d) ∧
    ((∀ d, read s = .ok d ↔ Denotes Component.nanos (Text.trimChars s.toList) d) ↔
      ∀ components, AreSpelled components (Text.trimChars s.toList) →
        (components.map (·.cut.nanos)).sum ≤ greatest →
          ∀ c ∈ components, c.cut.nanos = c.nanos) ∧
    (∀ components, AreSpelled components (Text.trimChars s.toList) → ∀ c ∈ components,
      c.cut.nanos ≤ c.nanos ∧ c.nanos ≤ c.cut.nanos + 1 ∧
        (c.fraction.length ≤ 20 ∨ c.unitNanos ≤ 1000000000 → c.cut.nanos = c.nanos)) ∧
    ∀ rest unit, unitNanos? (Component.split rest).1.unit = some unit →
      let read := (Component.split rest).1.fraction.take 20
      ∃ digits, Wide.ofDigits? read = some digits ∧ digits.umulOverflow unit = false ∧
        (Wide.powerOfTen read.length).toNat = 10 ^ read.length ∧
        (digits * unit / Wide.powerOfTen read.length).toNat =
          natOfDigits read * unit.toNat / 10 ^ read.length := by
  refine ⟨read_iff s, ?_, fun components h => h.cut_nanos, fun rest unit hunit => ?_⟩
  · simp only [read_iff]
    exact denotes_cut_iff
  · exact Component.unchecked_fits (Component.isDigit_of_mem_fraction rest) hunit

/-- The 21st digit makes a third of a minute whole, but is not read. -/
theorem read_third : read "0.333333333333333333334m" = .ok ⟨19999999999⟩ ∧
    Denotes Component.nanos (Text.trimChars "0.333333333333333333334m".toList) ⟨20000000000⟩ := by
  have hread : read "0.333333333333333333334m" = .ok ⟨19999999999⟩ := by decide +kernel
  have hspelled : Component.SpelledBy ⟨['0'], "333333333333333333334".toList, ['m']⟩
      (Text.trimChars "0.333333333333333333334m".toList) :=
    ⟨List.all_eq_true.1 (by decide), List.all_eq_true.1 (by decide), by decide, by decide,
      .inl (by decide +kernel)⟩
  refine ⟨hread, .inr ⟨[_], by simp, areSpelled_cons.2 ⟨_, [], hspelled, areSpelled_nil.2 rfl,
    (List.append_nil _).symm⟩, ?_, by decide⟩⟩
  rw [List.map_singleton, List.sum_singleton, Component.nanos_eq]
  decide +kernel

end AgentConvert.Duration
