import AgentConvert.Duration
import AgentConvert.Proofs.Document.Lexing
import Mathlib.Data.List.Forall2

/-!
# Spelled durations

A duration is spelled by components one behind the other (`AreSpelled`), each a number and a unit
(`Component.SpelledBy`). A unit has neither digits nor points, and a number starts with one of them,
so there is one way to split a text into components (`AreSpelled.unique`), and it is the reader's
(`Component.split_append`, `Component.spelledBy_split`).
-/

namespace AgentConvert.Duration

/-! ## Units -/

/-- The units with their nanoseconds. -/
def units : List (List Char × Nat) := [
  (['n', 's'], 1), (['u', 's'], 1000), (['µ', 's'], 1000), (['μ', 's'], 1000),
  (['m', 's'], 1000000), (['s'], 1000000000), (['m'], 60000000000), (['h'], 3600000000000),
  (['d'], 86400000000000), (['w'], 604800000000000), (['y'], 31536000000000000)]

variable {unit : List Char} {nanos : Wide}

theorem mem_units (h : unitNanos? unit = some nanos) : (unit, nanos.toNat) ∈ units := by
  have hunit : ∀ {text : String} {n : Wide}, String.ofList unit = text → some n = some nanos →
      (text.toList, n.toNat) ∈ units → (unit, nanos.toNat) ∈ units := by
    rintro text n rfl hn hmem
    rwa [← Option.some.inj hn, ← String.toList_ofList (l := unit)]
  unfold unitNanos? at h
  split at h
  all_goals first
    | exact hunit ‹_› h (by decide)
    | exact absurd h (by simp)

theorem ne_nil_of_unit (h : unitNanos? unit = some nanos) : unit ≠ [] := by
  have hall : ∀ e ∈ units, e.1 ≠ [] := by decide
  exact hall _ (mem_units h)

theorem inUnit_of_unit (h : unitNanos? unit = some nanos) : ∀ c ∈ unit, inUnit c = true := by
  have hall : ∀ e ∈ units, e.1.all inUnit = true := by decide
  exact List.all_eq_true.1 (hall _ (mem_units h))

/-! ## Components -/

namespace Component

/-- Whether `cs` spells a component: digits, of which there is one at least, a point among them or
none, and a unit. -/
structure SpelledBy (c : Component) (cs : List Char) : Prop where
  whole : ∀ d ∈ c.whole, d.isDigit = true
  fraction : ∀ d ∈ c.fraction, d.isDigit = true
  digits : c.whole ≠ [] ∨ c.fraction ≠ []
  unit : (unitNanos? c.unit).isSome = true
  spelled : cs = c.whole ++ '.' :: (c.fraction ++ c.unit) ∨ c.fraction = [] ∧ cs = c.whole ++ c.unit

variable {c : Component} {part rest cs : List Char}

/-- A spelled component starts with a digit or a point. -/
theorem SpelledBy.exists_cons (h : c.SpelledBy part) :
    ∃ d ds, part = d :: ds ∧ inUnit d = false := by
  cases hwhole : c.whole with
  | cons d ds =>
    have hd : inUnit d = false := by simp [inUnit, h.whole d (hwhole ▸ List.mem_cons_self ..)]
    rcases h.spelled with hpart | ⟨-, hpart⟩
    · exact ⟨d, _, by rw [hpart, hwhole, List.cons_append], hd⟩
    · exact ⟨d, _, by rw [hpart, hwhole, List.cons_append], hd⟩
  | nil =>
    rcases h.spelled with hpart | ⟨hfraction, -⟩
    · exact ⟨'.', _, by rw [hpart, hwhole, List.nil_append], by decide⟩
    · exact absurd hwhole (h.digits.resolve_right fun h' => h' hfraction)

/-- The reader splits off a component where the next one starts. -/
theorem split_append (h : c.SpelledBy part) (hrest : ∀ d ∈ rest.head?, inUnit d = false) :
    split (part ++ rest) = (c, rest) := by
  obtain ⟨nanos, hnanos⟩ := Option.isSome_iff_exists.1 h.unit
  have hunit := inUnit_of_unit hnanos
  obtain ⟨u, us, hcons⟩ := List.exists_cons_of_ne_nil (ne_nil_of_unit hnanos)
  have hu : u.isDigit = false ∧ u ≠ '.' := by
    simpa [inUnit] using hunit u (hcons ▸ List.mem_cons_self ..)
  have hhead : ∀ d ∈ (c.unit ++ rest).head?, d.isDigit = false := by
    rw [hcons, List.cons_append, List.head?_cons]
    rintro d ⟨⟩
    exact hu.1
  have htake : (c.unit ++ rest).takeWhile inUnit = c.unit := takeWhile_append hunit hrest
  have hdrop : (c.unit ++ rest).dropWhile inUnit = rest := dropWhile_append hunit hrest
  rcases h.spelled with hpart | ⟨hfraction, hpart⟩
  · have hpoint : ∀ d ∈ ('.' :: (c.fraction ++ (c.unit ++ rest))).head?, d.isDigit = false := by
      rintro d ⟨⟩
      decide
    have htext : part ++ rest = c.whole ++ '.' :: (c.fraction ++ (c.unit ++ rest)) := by
      rw [hpart]
      simp [List.append_assoc]
    rw [htext, split, takeWhile_append h.whole hpoint, dropWhile_append h.whole hpoint,
      splitFraction, takeWhile_append h.fraction hhead, dropWhile_append h.fraction hhead, htake,
      hdrop]
  · have htext : part ++ rest = c.whole ++ (c.unit ++ rest) := by
      rw [hpart, List.append_assoc]
    have hnone : splitFraction (c.unit ++ rest) = (c.fraction, c.unit ++ rest) := by
      rw [hfraction, hcons, List.cons_append]
      exact splitFraction.eq_2 _ fun _ heq => hu.2 (List.cons.inj heq).1
    rw [htext, split, takeWhile_append h.whole hhead, dropWhile_append h.whole hhead, hnone, htake,
      hdrop]

theorem isDigit_of_mem_fraction (cs : List Char) :
    ∀ d ∈ (split cs).1.fraction, d.isDigit = true := by
  rw [split]
  unfold splitFraction
  split
  · exact List.all_eq_true.1 (List.all_takeWhile ..)
  · exact fun d hd => absurd hd List.not_mem_nil

/-- What the reader splits off is spelled by what it leaves out, if it has digits and a unit. -/
theorem spelledBy_split (hdigits : (split cs).1.whole ≠ [] ∨ (split cs).1.fraction ≠ [])
    (hunit : (unitNanos? (split cs).1.unit).isSome = true) :
    ∃ part, (split cs).1.SpelledBy part ∧ cs = part ++ (split cs).2 := by
  have hall : ∀ l : List Char, ∀ d ∈ l.takeWhile Char.isDigit, d.isDigit = true := fun l d hd =>
    List.all_eq_true.1 (List.all_takeWhile ..) d hd
  have hwhole : cs = cs.takeWhile Char.isDigit ++ cs.dropWhile Char.isDigit :=
    List.takeWhile_append_dropWhile.symm
  revert hdigits hunit
  simp only [split]
  generalize cs.dropWhile Char.isDigit = rest at hwhole
  unfold splitFraction
  split
  · intro hdigits hunit
    refine ⟨_, ⟨hall _, hall _, hdigits, hunit, .inl rfl⟩, ?_⟩
    conv_lhs => rw [hwhole]
    simp [List.append_assoc, List.takeWhile_append_dropWhile]
  · intro hdigits hunit
    refine ⟨_, ⟨hall _, fun d hd => absurd hd List.not_mem_nil, hdigits, hunit,
      .inr ⟨rfl, rfl⟩⟩, ?_⟩
    conv_lhs => rw [hwhole]
    simp [List.append_assoc, List.takeWhile_append_dropWhile]

end Component

/-! ## Texts -/

/-- Whether `cs` spells components one behind the other. -/
def AreSpelled (components : List Component) (cs : List Char) : Prop :=
  ∃ parts, List.Forall₂ Component.SpelledBy components parts ∧ parts.flatten = cs

variable {c : Component} {components : List Component} {cs : List Char}

theorem areSpelled_nil : AreSpelled [] cs ↔ cs = [] := by
  constructor
  · rintro ⟨parts, hparts, rfl⟩
    cases hparts
    rfl
  · rintro rfl
    exact ⟨[], .nil, rfl⟩

theorem areSpelled_cons : AreSpelled (c :: components) cs ↔
    ∃ part rest, c.SpelledBy part ∧ AreSpelled components rest ∧ cs = part ++ rest := by
  constructor
  · rintro ⟨parts, hparts, rfl⟩
    cases hparts with
    | @cons _ part _ parts hpart hparts =>
      exact ⟨part, parts.flatten, hpart, ⟨parts, hparts, rfl⟩, List.flatten_cons⟩
  · rintro ⟨part, rest, hpart, ⟨parts, hparts, rfl⟩, rfl⟩
    exact ⟨part :: parts, .cons hpart hparts, List.flatten_cons⟩

namespace AreSpelled

theorem append {components' : List Component} {cs' : List Char} (h : AreSpelled components cs)
    (h' : AreSpelled components' cs') : AreSpelled (components ++ components') (cs ++ cs') := by
  obtain ⟨parts, hparts, rfl⟩ := h
  obtain ⟨parts', hparts', rfl⟩ := h'
  exact ⟨parts ++ parts', List.rel_append hparts hparts', List.flatten_append⟩

theorem head? (h : AreSpelled components cs) : ∀ d ∈ cs.head?, inUnit d = false := by
  cases components with
  | nil =>
    rw [areSpelled_nil.1 h]
    exact fun d hd => absurd hd (by simp)
  | cons c components =>
    obtain ⟨part, rest, hpart, -, rfl⟩ := areSpelled_cons.1 h
    obtain ⟨d, ds, rfl, hd⟩ := hpart.exists_cons
    rintro d' ⟨⟩
    exact hd

theorem spelledBy (h : AreSpelled components cs) (hc : c ∈ components) :
    ∃ part, c.SpelledBy part := by
  induction components generalizing cs with
  | nil => exact absurd hc List.not_mem_nil
  | cons c' components ih =>
    obtain ⟨part, rest, hpart, hrest, -⟩ := areSpelled_cons.1 h
    rcases List.mem_cons.1 hc with rfl | hc
    · exact ⟨part, hpart⟩
    · exact ih hrest hc

/-- The first component is what the reader splits off. -/
theorem split_eq (h : AreSpelled (c :: components) cs) :
    ∃ part, c.SpelledBy part ∧ (Component.split cs).1 = c ∧
      AreSpelled components (Component.split cs).2 ∧ cs ≠ [] := by
  obtain ⟨part, rest, hpart, hrest, rfl⟩ := areSpelled_cons.1 h
  obtain ⟨d, ds, rfl, -⟩ := hpart.exists_cons
  rw [Component.split_append hpart hrest.head?]
  exact ⟨_, hpart, rfl, hrest, by simp⟩

/-- A text spells no two lists of components. -/
theorem unique {components' : List Component} (h : AreSpelled components cs)
    (h' : AreSpelled components' cs) : components = components' := by
  induction components generalizing components' cs with
  | nil =>
    cases components' with
    | nil => rfl
    | cons c' components' =>
      obtain ⟨-, -, -, -, hne⟩ := h'.split_eq
      exact absurd (areSpelled_nil.1 h) hne
  | cons c components ih =>
    obtain ⟨-, -, hc, hrest, hne⟩ := h.split_eq
    cases components' with
    | nil => exact absurd (areSpelled_nil.1 h') hne
    | cons c' components' =>
      obtain ⟨-, -, hc', hrest', -⟩ := h'.split_eq
      rw [← hc, ← hc', ih hrest hrest']

end AreSpelled

end AgentConvert.Duration
