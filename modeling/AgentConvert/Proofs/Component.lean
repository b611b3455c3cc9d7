import AgentConvert.Component
import AgentConvert.Document.Identifier

/-!
# Names of components

A dotted name whose segments are identifiers is taken apart into these segments
(`dotted_dottedName`), so what a block exports is the path of its kind's segments, its label and the
field (`ComponentKind.dotted_exportPath`).
-/

namespace AgentConvert

/-! ## Dotted names -/

theorem not_mem_dot {s : String} (h : isIdentifier s = true) : '.' ∉ s.toList := by
  intro hdot
  rw [isIdentifier] at h
  cases hs : s.toList with
  | nil =>
    rw [hs] at h
    exact Bool.false_ne_true h
  | cons c cs =>
    rw [hs, isIdentifierChars, Bool.and_eq_true] at h
    rw [hs] at hdot
    rcases List.mem_cons.1 hdot with rfl | hdot
    · exact absurd h.1 (by decide)
    · exact absurd (List.all_eq_true.1 h.2 _ hdot) (by decide)

theorem split_word {cs : List Char} (h : '.' ∉ cs) (word : List Char) :
    dotted.split cs word = [String.ofList (word.reverse ++ cs)] := by
  induction cs generalizing word with
  | nil => simp [dotted.split]
  | cons c cs ih =>
    rw [List.mem_cons, not_or] at h
    rw [dotted.split, if_neg (by simpa using Ne.symm h.1), ih h.2]
    simp

theorem split_word_dot {cs : List Char} (h : '.' ∉ cs) (word rest : List Char) :
    dotted.split (cs ++ '.' :: rest) word =
      String.ofList (word.reverse ++ cs) :: dotted.split rest [] := by
  induction cs generalizing word with
  | nil => simp [dotted.split]
  | cons c cs ih =>
    rw [List.mem_cons, not_or] at h
    rw [List.cons_append, dotted.split, if_neg (by simpa using Ne.symm h.1), ih h.2]
    simp

/-- The segments of a dotted name are those that it was made of. -/
theorem dotted_dottedName {segments : List String} (hne : segments ≠ [])
    (h : ∀ s ∈ segments, isIdentifier s = true) : dotted (dottedName segments) = segments := by
  induction segments with
  | nil => exact absurd rfl hne
  | cons s rest ih =>
    have hdot := not_mem_dot (h s (List.mem_cons_self ..))
    cases rest with
    | nil =>
      rw [dottedName, String.intercalate_singleton, dotted, split_word hdot]
      simp
    | cons t rest =>
      have hrest := ih (by simp) fun s hs => h s (List.mem_cons_of_mem _ hs)
      have hlist : (dottedName (s :: t :: rest)).toList =
          s.toList ++ '.' :: (dottedName (t :: rest)).toList := by
        simp [dottedName, String.intercalate_cons_cons]
      rw [dotted, hlist, split_word_dot hdot]
      rw [dotted] at hrest
      simp [hrest]

theorem dottedName_append {as : List String} (h : as ≠ []) (b : String) :
    dottedName (as ++ [b]) = dottedName as ++ "." ++ b := by
  rw [dottedName, String.intercalate_append_of_ne_nil h (by simp), String.intercalate_singleton]
  rfl

/-! ## Kinds -/

namespace ComponentKind

/-- Whether the segments of a kind can be the name of a block. -/
def IsNamed (kind : ComponentKind) : Prop :=
  kind.segments ≠ [] ∧ ∀ s ∈ kind.segments, isIdentifier s = true

instance (kind : ComponentKind) : Decidable kind.IsNamed :=
  inferInstanceAs (Decidable (_ ∧ _))

/-- Kinds of one name are the same. -/
theorem eq_of_name_eq {a b : ComponentKind} (ha : a.IsNamed) (hb : b.IsNamed)
    (h : a.name = b.name) : a = b := by
  have hsegments : a.segments = b.segments := by
    rw [← dotted_dottedName ha.1 ha.2, ← dotted_dottedName hb.1 hb.2]
    exact congrArg dotted h
  exact congrArg ComponentKind.mk hsegments

theorem exportPath_eq {kind : ComponentKind} (h : kind.IsNamed) (label field : String) :
    kind.exportPath label field = dottedName (kind.segments ++ [label, field]) := by
  have hsplit : kind.segments ++ [label, field] = kind.segments ++ [label] ++ [field] := by simp
  rw [hsplit, dottedName_append (by simp), dottedName_append h.1]
  rfl

/-- What a block exports is the path of its kind's segments, its label and the field. -/
theorem dotted_exportPath {kind : ComponentKind} {label field : String} (h : kind.IsNamed)
    (hl : isIdentifier label = true) (hf : isIdentifier field = true) :
    dotted (kind.exportPath label field) = kind.segments ++ [label, field] := by
  rw [exportPath_eq h, dotted_dottedName (by simp)]
  intro s hs
  simp only [List.mem_append, List.mem_cons, List.not_mem_nil, or_false] at hs
  rcases hs with hs | rfl | rfl
  · exact h.2 s hs
  · exact hl
  · exact hf

end ComponentKind

end AgentConvert
