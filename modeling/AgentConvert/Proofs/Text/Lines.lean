import AgentConvert.Text.Blank
import AgentConvert.Text.Quoted
import Mathlib.Data.List.Basic

/-!
# Lines of texts

A text may be lines with a line feed behind each (`Text.HasLines`), or lines with line feeds between
them, all of them full (`Text.IsFilled`): a full line has characters, and does not end in a blank.
A filled text becomes full lines by a line feed at its end (`Text.IsFilled.exists_lines`). Where a
text ends, a column is reached (`Text.column`).

The lines into which a text is cut are unbroken (`Text.lineFeed_not_mem_linesOfChars`), and they stay
so when they are trimmed and joined by something unbroken.
-/

namespace AgentConvert.Text

variable {as bs cs : List Char} {line : List Char} {lines ms : List (List Char)}

/-! ## Pieces of texts -/

theorem lineFeed_not_mem_splitLines (cs : List Char) : ∀ line ∈ splitLines cs, '\n' ∉ line := by
  induction cs with
  | nil => simp [splitLines]
  | cons c cs ih =>
    intro line hline
    unfold splitLines at hline
    split at hline
    · rcases List.mem_cons.1 hline with rfl | hline
      · simp
      · exact ih line hline
    · rename_i hc
      have hc : '\n' ≠ c := fun h => hc (beq_iff_eq.2 h.symm)
      split at hline
      · obtain rfl := List.mem_singleton.1 hline
        simpa using hc
      · rename_i first rest hrest
        rw [hrest] at ih
        rcases List.mem_cons.1 hline with rfl | hline
        · have hfirst := ih first (List.mem_cons_self ..)
          simp [hc, hfirst]
        · exact ih line (List.mem_cons_of_mem _ hline)

/-- A line ends at its line feed. -/
theorem splitLines_ended (h : '\n' ∉ line) (cs : List Char) :
    splitLines (line ++ '\n' :: cs) = line :: splitLines cs := by
  induction line with
  | nil => simp [splitLines]
  | cons c line ih =>
    obtain ⟨hc, hline⟩ := not_or.1 (mt List.mem_cons.2 h)
    rw [List.cons_append, splitLines, ih hline]
    simp [Ne.symm hc]

theorem dropCarriageReturn_sublist (line : List Char) : (dropCarriageReturn line).Sublist line := by
  unfold dropCarriageReturn
  split
  · exact List.dropLast_sublist line
  · exact .refl line

/-- The lines of a text are unbroken. -/
theorem lineFeed_not_mem_linesOfChars (cs : List Char) : ∀ line ∈ linesOfChars cs, '\n' ∉ line := by
  have hended : ∀ line ∈ (splitLines cs).dropLast.map dropCarriageReturn, '\n' ∉ line :=
    List.forall_mem_map.2 fun piece hpiece hfeed =>
      lineFeed_not_mem_splitLines cs piece (List.dropLast_subset _ hpiece)
        ((dropCarriageReturn_sublist piece).subset hfeed)
  unfold linesOfChars
  dsimp only
  split
  · rename_i hlast
    refine List.forall_mem_append.2 ⟨hended, List.forall_mem_singleton.2 ?_⟩
    exact lineFeed_not_mem_splitLines cs _ (List.mem_of_getLast? hlast)
  · exact hended

theorem trimChars_sublist (cs : List Char) : (trimChars cs).Sublist cs := by
  have hend := List.reverse_sublist.2
    (List.dropWhile_sublist isBlank (l := (cs.dropWhile isBlank).reverse))
  rw [List.reverse_reverse] at hend
  exact hend.trans (List.dropWhile_sublist isBlank)

theorem lineFeed_not_mem_trim {s : String} (h : '\n' ∉ s.toList) : '\n' ∉ (trim s).toList := by
  rw [trim, String.toList_ofList]
  exact fun hfeed => h ((trimChars_sublist _).subset hfeed)

/-- Parts that are joined are unbroken if they are, and what is put between them is. -/
theorem lineFeed_not_mem_intercalate {separator : String} {parts : List String}
    (hs : '\n' ∉ separator.toList) (h : ∀ part ∈ parts, '\n' ∉ part.toList) :
    '\n' ∉ (separator.intercalate parts).toList := by
  induction parts with
  | nil => simp
  | cons part parts ih =>
    obtain ⟨hpart, hparts⟩ := List.forall_mem_cons.1 h
    cases parts with
    | nil => simpa using hpart
    | cons next parts =>
      rw [String.intercalate_cons_cons]
      simp only [String.toList_append, List.mem_append, not_or]
      exact ⟨⟨hpart, hs⟩, ih hparts⟩

theorem lineFeed_not_mem_toDigits {base : Nat} (hb : 1 < base) (n : Nat) :
    '\n' ∉ Nat.toDigits base n := by
  induction n using Nat.strongRecOn with
  | ind n ih =>
    rw [Nat.toDigits_eq_if hb]
    split
    · simp
    · have hrest : '\n' ∉ Nat.toDigits base (n / base) := ih _ (Nat.div_lt_self (by omega) hb)
      simp [hrest]

theorem lineFeed_not_mem_quotedChar (c : Char) : '\n' ∉ (quotedChar c).toList := by
  unfold quotedChar
  split
  case h_7 hfeed _ _ _ =>
    split
    · simpa using Ne.symm hfeed
    · simp [lineFeed_not_mem_toDigits]
  all_goals decide

/-- A text between quotes stands on one line. -/
theorem lineFeed_not_mem_quoted (s : String) : '\n' ∉ (quoted s).toList := by
  rw [quoted, String.toList_append, String.toList_append, String.toList_join, List.flatMap_map]
  simp [lineFeed_not_mem_quotedChar]

/-! ## Ended lines -/

/-- Whether a text is the given lines, each of them with a line feed behind it. -/
structure HasLines (cs : List Char) (lines : List (List Char)) : Prop where
  eq_flatMap : cs = lines.flatMap (· ++ ['\n'])
  unbroken : ∀ line ∈ lines, '\n' ∉ line

namespace HasLines

theorem nil : HasLines [] [] := ⟨rfl, by simp⟩

theorem single (h : '\n' ∉ line) : HasLines (line ++ ['\n']) [line] :=
  ⟨by simp, by simpa using h⟩

theorem append (ha : HasLines as lines) (hb : HasLines bs ms) :
    HasLines (as ++ bs) (lines ++ ms) := by
  refine ⟨?_, List.forall_mem_append.2 ⟨ha.unbroken, hb.unbroken⟩⟩
  rw [List.flatMap_append, ← ha.eq_flatMap, ← hb.eq_flatMap]

/-- Behind the last line feed, nothing is left. -/
theorem splitLines_eq (h : HasLines cs lines) : splitLines cs = lines ++ [[]] := by
  obtain ⟨rfl, hunbroken⟩ := h
  induction lines with
  | nil => rfl
  | cons line lines ih =>
    obtain ⟨hline, hlines⟩ := List.forall_mem_cons.1 hunbroken
    rw [List.flatMap_cons, List.append_assoc, List.singleton_append, splitLines_ended hline,
      ih hlines, List.cons_append]

/-- A text ends in one line feed if its last line is not empty. -/
theorem exists_concat (h : HasLines cs lines) (hne : cs ≠ []) (hlast : lines.getLast? ≠ some []) :
    ∃ front c, cs = front ++ [c, '\n'] ∧ c ≠ '\n' := by
  obtain ⟨rfl, hbroken⟩ := h
  rcases List.eq_nil_or_concat' lines with rfl | ⟨lines, line, rfl⟩
  · exact absurd rfl hne
  rcases List.eq_nil_or_concat' line with rfl | ⟨line, c, rfl⟩
  · exact absurd List.getLast?_concat hlast
  refine ⟨lines.flatMap (· ++ ['\n']) ++ line, c, by simp, fun hc => ?_⟩
  exact hbroken (line ++ [c]) (by simp) (by simp [hc])

end HasLines

/-! ## Full lines -/

/-- Whether a line has characters, and no blank at its end. -/
structure IsFullLine (line : List Char) : Prop where
  unbroken : '\n' ∉ line
  solid : ∃ c ∈ line.getLast?, isBlank c = false

/-- Whether all lines of a text are full, with line feeds between them only. -/
inductive IsFilled : List Char → Prop
  | last {line : List Char} (h : IsFullLine line) : IsFilled line
  | cons {line cs : List Char} (h : IsFullLine line) (hcs : IsFilled cs) :
    IsFilled (line ++ '\n' :: cs)

theorem IsFullLine.ne_nil (h : IsFullLine line) : line ≠ [] := by
  rintro rfl
  obtain ⟨c, hc, -⟩ := h.solid
  exact absurd hc (by simp)

/-- Characters in front of a full line make a longer one. -/
theorem IsFullLine.append_left (has : '\n' ∉ as) (h : IsFullLine line) :
    IsFullLine (as ++ line) := by
  obtain ⟨c, hc, hsolid⟩ := h.solid
  refine ⟨by simp [has, h.unbroken], c, ?_, hsolid⟩
  rw [List.getLast?_append, Option.mem_def.1 hc]
  rfl

theorem isFullLine_concat {c : Char} (has : '\n' ∉ as) (hc : isBlank c = false) :
    IsFullLine (as ++ [c]) := by
  refine ⟨?_, c, by simp, hc⟩
  have hne : '\n' ≠ c := by
    rintro rfl
    exact absurd hc (by decide)
  simp [has, hne]

theorem isFullLine_singleton {c : Char} (hc : isBlank c = false) : IsFullLine [c] :=
  isFullLine_concat List.not_mem_nil hc

namespace IsFilled

theorem append_left (has : '\n' ∉ as) (h : IsFilled cs) : IsFilled (as ++ cs) := by
  cases h with
  | last h => exact .last (h.append_left has)
  | cons h hcs =>
    rw [← List.append_assoc]
    exact .cons (h.append_left has) hcs

theorem append (ha : IsFilled as) (hb : IsFilled bs) : IsFilled (as ++ bs) := by
  induction ha with
  | last h => exact hb.append_left h.unbroken
  | cons h _ ih =>
    rw [List.append_assoc, List.cons_append]
    exact .cons h ih

theorem append_lineFeed (ha : IsFilled as) (hb : IsFilled bs) : IsFilled (as ++ '\n' :: bs) := by
  induction ha with
  | last h => exact .cons h hb
  | cons h _ ih =>
    rw [List.append_assoc, List.cons_append]
    exact .cons h ih

/-- A filled text with a line feed behind it is full lines. -/
theorem exists_lines (h : IsFilled cs) :
    ∃ lines, HasLines (cs ++ ['\n']) lines ∧ lines ≠ [] ∧ ∀ line ∈ lines, IsFullLine line := by
  induction h with
  | @last line h => exact ⟨[line], .single h.unbroken, by simp, by simpa using h⟩
  | @cons line cs h _ ih =>
    obtain ⟨lines, hlines, -, hfull⟩ := ih
    refine ⟨line :: lines, ?_, by simp, List.forall_mem_cons.2 ⟨h, hfull⟩⟩
    have hall := (HasLines.single h.unbroken).append hlines
    simpa using hall

end IsFilled

/-! ## Columns -/

/-- How many characters stand behind the last line feed of a text. -/
def column (cs : List Char) : Nat := (cs.reverse.takeWhile (· ≠ '\n')).length

theorem column_append (has : '\n' ∉ as) : column (cs ++ as) = column cs + as.length := by
  have hall : ∀ c ∈ as.reverse, decide (c ≠ '\n') = true := fun c hc => by
    rw [List.mem_reverse] at hc
    exact decide_eq_true fun h => has (h ▸ hc)
  rw [column, List.reverse_append, List.takeWhile_append_of_pos hall, List.length_append,
    List.length_reverse, Nat.add_comm, column]

@[simp] theorem column_nil : column [] = 0 := rfl

/-- A line feed leads back to the first column. -/
@[simp] theorem column_lineFeed (cs : List Char) : column (cs ++ ['\n']) = 0 := by
  simp [column]

end AgentConvert.Text
