import AgentConvert.Diagnostic

/-!
# How messages open

Folding a message into one line keeps the word with which it opens (`oneLine_opens`), so what a
finding is about shows in its first characters. Findings on blocks that cannot be built and on
documents that cannot be formatted say so there (`Diagnostic.ReportsFailure`), and a message that
opens apart from theirs is none of them (`Diagnostic.not_reportsFailure`).
-/

namespace AgentConvert

/-! ## Words -/

/-- Characters on one line that neither start nor end with a blank. -/
def IsWord (cs : List Char) : Prop :=
  cs ≠ [] ∧ '\n' ∉ cs ∧ (∀ c ∈ cs.head?, Text.isBlank c = false) ∧
    ∀ c ∈ cs.getLast?, Text.isBlank c = false

instance (cs : List Char) : Decidable (IsWord cs) :=
  decidable_of_iff (cs ≠ [] ∧ '\n' ∉ cs ∧ cs.head?.all (!Text.isBlank ·) = true ∧
    cs.getLast?.all (!Text.isBlank ·) = true) (by simp [IsWord, Option.all_eq_true])

theorem isWord_singleton {c : Char} (h : Text.isBlank c = false) : IsWord [c] := by
  refine ⟨by simp, fun hc => ?_, by simpa using h, by simpa using h⟩
  rw [List.mem_singleton] at hc
  subst hc
  exact absurd h (by decide)

variable {word : List Char}

namespace Text

theorem splitLines_ne_nil (cs : List Char) : splitLines cs ≠ [] := by
  cases cs with
  | nil => simp [splitLines]
  | cons c cs =>
    unfold splitLines
    split
    · simp
    · split <;> simp

/-- A text with a line feed has more than one piece. -/
theorem tail_splitLines {cs : List Char} (h : '\n' ∈ cs) : (splitLines cs).tail ≠ [] := by
  induction cs with
  | nil => exact absurd h (by simp)
  | cons c cs ih =>
    unfold splitLines
    split
    · exact splitLines_ne_nil cs
    · rename_i hc
      have hmem := (List.mem_cons.1 h).resolve_left fun hc' => hc (by simp [← hc'])
      split
      · rename_i hnil
        exact absurd hnil (splitLines_ne_nil cs)
      · rename_i hcons
        simpa [hcons] using ih hmem

/-- The first piece of a text holds its first word. -/
theorem splitLines_append (h : '\n' ∉ word) (rest : List Char) :
    ∃ first, splitLines (word ++ rest) = (word ++ first) :: (splitLines rest).tail := by
  induction word with
  | nil =>
    obtain ⟨first, more, hrest⟩ := List.exists_cons_of_ne_nil (splitLines_ne_nil rest)
    exact ⟨first, by rw [List.nil_append, List.nil_append, hrest, List.tail_cons]⟩
  | cons c word ih =>
    rw [List.mem_cons, not_or] at h
    obtain ⟨first, hword⟩ := ih h.2
    refine ⟨first, ?_⟩
    rw [List.cons_append, splitLines, if_neg (by simpa using Ne.symm h.1), hword]
    rfl

theorem dropCarriageReturn_append (h : IsWord word) (rest : List Char) :
    ∃ rest', dropCarriageReturn (word ++ rest) = word ++ rest' := by
  unfold dropCarriageReturn
  split
  · rename_i hlast
    cases rest with
    | nil =>
      rw [List.append_nil, beq_iff_eq] at hlast
      exact absurd (h.2.2.2 _ hlast) (by decide)
    | cons c rest => exact ⟨_, List.dropLast_append_of_ne_nil (by simp)⟩
  · exact ⟨rest, rfl⟩

theorem dropWhile_eq_self {α : Type} {p : α → Bool} {xs : List α}
    (h : ∀ x ∈ xs.head?, p x = false) : xs.dropWhile p = xs := by
  cases xs with
  | nil => rfl
  | cons x xs => exact List.dropWhile_cons_of_neg (by simpa using h x rfl)

theorem trimChars_append (h : IsWord word) (rest : List Char) :
    ∃ rest', trimChars (word ++ rest) = word ++ rest' := by
  have hhead : ∀ c ∈ (word ++ rest).head?, isBlank c = false := by
    obtain ⟨c, cs, rfl⟩ := List.exists_cons_of_ne_nil h.1
    exact h.2.2.1
  have hlast : word.reverse.dropWhile isBlank = word.reverse :=
    dropWhile_eq_self (by simpa using h.2.2.2)
  rw [trimChars, dropWhile_eq_self hhead, dropEndWhile,
    List.reverse_append, List.dropWhile_append]
  split
  · exact ⟨[], by rw [hlast, List.reverse_reverse, List.append_nil]⟩
  · exact ⟨_, by rw [List.reverse_append, List.reverse_reverse]⟩

/-- The first line of a text with a line feed holds its first word. -/
theorem linesOfChars_append (h : IsWord word) {rest : List Char} (hfeed : '\n' ∈ rest) :
    ∃ first others, linesOfChars (word ++ rest) = (word ++ first) :: others := by
  obtain ⟨first, hsplit⟩ := splitLines_append h.2.1 rest
  obtain ⟨first', hfirst⟩ := dropCarriageReturn_append h first
  have hended : ((splitLines (word ++ rest)).dropLast.map dropCarriageReturn) =
      (word ++ first') :: (splitLines rest).tail.dropLast.map dropCarriageReturn := by
    rw [hsplit, List.dropLast_cons_of_ne_nil (tail_splitLines hfeed), List.map_cons, hfirst]
  unfold linesOfChars
  dsimp only
  rw [hended]
  split
  · exact ⟨_, _, List.cons_append⟩
  · exact ⟨_, _, rfl⟩

end Text

theorem prefix_toList_append {opening : List Char} {a : String} (h : opening <+: a.toList)
    (b : String) : opening <+: (a ++ b).toList := by
  rw [String.toList_append]
  exact h.trans (List.prefix_append ..)

/-- Folding a message keeps the word with which it opens. -/
theorem oneLine_opens (h : IsWord word) {message : String} (ho : word <+: message.toList) :
    word <+: (oneLine message).toList := by
  unfold oneLine
  split
  · rename_i hfeed
    obtain ⟨rest, hrest⟩ := ho
    have hmem : '\n' ∈ rest := by
      rw [← hrest, List.contains_iff_mem] at hfeed
      exact (List.mem_append.1 hfeed).resolve_left h.2.1
    obtain ⟨first, others, hlines⟩ := Text.linesOfChars_append h hmem
    obtain ⟨trimmed, htrim⟩ := Text.trimChars_append h first
    have hne : Text.trim (String.ofList (word ++ first)) ≠ "" := by
      rw [Text.trim, String.toList_ofList, htrim]
      intro heq
      have hnil := congrArg String.toList heq
      rw [String.toList_ofList] at hnil
      exact h.1 (List.append_eq_nil_iff.1 hnil).1
    rw [Text.lines, ← hrest, hlines, List.map_cons, List.map_cons,
      List.filter_cons_of_pos (by simpa using hne), String.toList_intercalate, List.map_cons]
    generalize List.map String.toList _ = lines
    simp only [Text.trim, String.toList_ofList, htrim]
    cases lines with
    | nil => exact ⟨trimmed, by simp⟩
    | cons line lines =>
      refine ⟨trimmed ++ ' ' :: [' '].intercalate (line :: lines), ?_⟩
      simp [List.intercalate_cons_cons]
  · exact ho

/-! ## Failures -/

/-- How messages open that say that a block cannot be built, or a document cannot be formatted. -/
def failureOpenings : List (List Char) :=
  ["failed to build".toList, "failed to format the output document".toList]

/-- Whether a finding says that a block cannot be built, or a document cannot be formatted. -/
def Diagnostic.ReportsFailure (d : Diagnostic) : Prop :=
  ∃ opening ∈ failureOpenings, opening <+: d.message.toList

/-- Whether a message opens with a word that is apart from how failures are reported. -/
def OpensApart (message : String) : Prop :=
  ∃ word, IsWord word ∧ (∀ opening ∈ failureOpenings, ¬opening <+: word ∧ ¬word <+: opening) ∧
    word <+: message.toList

theorem OpensApart.append {a : String} (h : OpensApart a) (b : String) : OpensApart (a ++ b) := by
  obtain ⟨word, hword, hne, ho⟩ := h
  exact ⟨word, hword, hne, prefix_toList_append ho b⟩

/-- What opens apart is no report of a failure, also when it is folded. -/
theorem Diagnostic.not_reportsFailure {message : String} (h : OpensApart message)
    (severity : Severity) : ¬(of severity message).ReportsFailure := by
  obtain ⟨word, hword, hne, ho⟩ := h
  rintro ⟨opening, hopening, hfailure⟩
  have hfolded := oneLine_opens hword ho
  rcases List.prefix_or_prefix_of_prefix hfailure hfolded with h | h
  · exact (hne opening hopening).1 h
  · exact (hne opening hopening).2 h

/-- Whether a text starts with another letter than reports of failures do. -/
def startsApart (s : String) : Bool :=
  match s.toList with
  | c :: _ => c != 'f' && !Text.isBlank c
  | [] => false

theorem opensApart_of_startsApart {s : String} (h : startsApart s = true) : OpensApart s := by
  unfold startsApart at h
  split at h
  · rename_i c cs hcs
    simp only [Bool.and_eq_true, bne_iff_ne, Bool.not_eq_true'] at h
    refine ⟨[c], isWord_singleton h.2, ?_, hcs ▸ ⟨cs, rfl⟩⟩
    have hc : 'f' ≠ c := Ne.symm h.1
    simp [failureOpenings, List.prefix_cons_iff, hc, h.1]
  · exact absurd h Bool.false_ne_true

/-! ## Findings -/

/-- Whether no finding says that a block cannot be built, or a document cannot be formatted. -/
def Diagnostics.AreClean (ds : Diagnostics) : Prop := ∀ d ∈ ds, ¬d.ReportsFailure

namespace Diagnostics

variable {α : Type}

@[simp] theorem areClean_nil : AreClean [] := by simp [AreClean]

@[simp] theorem areClean_cons {d : Diagnostic} {ds : Diagnostics} :
    AreClean (d :: ds) ↔ ¬d.ReportsFailure ∧ AreClean ds := by
  simp [AreClean]

@[simp] theorem areClean_append {as bs : Diagnostics} :
    AreClean (as ++ bs) ↔ AreClean as ∧ AreClean bs := by
  simp only [AreClean, List.forall_mem_append]

@[simp] theorem areClean_when {condition : Bool} {d : Diagnostic} :
    AreClean (Diagnostic.when condition d) ↔ (condition = true → ¬d.ReportsFailure) := by
  cases condition <;> simp [Diagnostic.when]

theorem areClean_map {f : α → Diagnostic} {as : List α} (h : ∀ a ∈ as, ¬(f a).ReportsFailure) :
    AreClean (as.map f) :=
  List.forall_mem_map.2 h

theorem areClean_flatMap {f : α → Diagnostics} {as : List α} (h : ∀ a ∈ as, AreClean (f a)) :
    AreClean (as.flatMap f) := by
  intro d hd
  obtain ⟨a, ha, hd⟩ := List.mem_flatMap.1 hd
  exact h a ha d hd

end Diagnostics

/-- A finding whose message starts with another letter. -/
theorem Diagnostic.clean_of {message : String} (h : startsApart message = true)
    (severity : Severity) : ¬(of severity message).ReportsFailure :=
  not_reportsFailure (opensApart_of_startsApart h) severity

@[simp] theorem startsApart_append {a : String} (b : String) (h : startsApart a = true) :
    startsApart (a ++ b) = true := by
  unfold startsApart at h ⊢
  rw [String.toList_append]
  cases ha : a.toList with
  | nil => simp [ha] at h
  | cons c cs => simpa [ha] using h

end AgentConvert
