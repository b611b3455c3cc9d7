import AgentConvert.Proofs.Document.Alignment

/-!
# Lines of canonical documents

The canonical layout of a well-formed expression is full lines (`Expr.isFilled_layoutChars`), so
that of a document has an empty line between two statements if one of them is a block, and no other
ones (`Statement.exists_lines_layoutBody`). With the alignment of names this is the layout that
documents are promised to have (`Body.canonical_exact`).
-/

namespace AgentConvert

open Text

/-! ## Full lines -/

theorem isFullLine_of_forall {cs : List Char} (hne : cs ≠ [])
    (h : ∀ c ∈ cs, isIdentContinue c = true) : IsFullLine cs := by
  refine ⟨fun hc => absurd (h _ hc) (by decide), cs.getLast hne,
    List.getLast?_eq_some_getLast hne, ?_⟩
  exact isBlank_of_isIdentContinue (h _ (List.getLast_mem hne))

theorem isFullLine_identifier {s : String} (h : isIdentifier s = true) : IsFullLine s.toList := by
  unfold isIdentifier isIdentifierChars at h
  split at h
  · exact absurd h Bool.false_ne_true
  · rename_i c cs hs
    rw [Bool.and_eq_true, List.all_eq_true] at h
    rw [hs]
    refine isFullLine_of_forall (List.cons_ne_nil _ _) (List.forall_mem_cons.2 ⟨?_, h.2⟩)
    exact isIdentContinue_of_isIdentStart h.1

theorem isFullLine_nameChars {segments : List String} (h : IsName segments) :
    IsFullLine (nameChars segments) := by
  obtain ⟨hne, hsegments⟩ := h
  induction segments with
  | nil => exact absurd rfl hne
  | cons s segments ih =>
    obtain ⟨hs, hrest⟩ := List.forall_mem_cons.1 hsegments
    cases segments with
    | nil => simpa [nameChars, dottedName] using isFullLine_identifier hs
    | cons t segments =>
      have hdot : '\n' ∉ s.toList ++ ['.'] := by simp [lineFeed_not_mem_identifier hs]
      rw [nameChars_cons]
      simpa using (ih (List.cons_ne_nil _ _) hrest).append_left hdot

/-- A number ends in digits. -/
theorem IsNumber.exists_digits {cs : List Char} (h : IsNumber cs) :
    ∃ front ds, cs = front ++ ds ∧ AreDigits ds := by
  obtain ⟨sign, whole, fraction, exponent, rfl, -, hwhole, hfraction, hexponent⟩ := h
  rcases hexponent with rfl | ⟨e, mark, ds, rfl, -, -, hds⟩
  · rcases hfraction with rfl | ⟨ds, rfl, hds⟩
    · exact ⟨sign, whole, by simp, hwhole⟩
    · exact ⟨sign ++ whole ++ ['.'], ds, by simp, hds⟩
  · exact ⟨sign ++ whole ++ fraction ++ e :: mark, ds, by simp, hds⟩

theorem isFullLine_number {cs : List Char} (h : IsNumber cs) : IsFullLine cs := by
  have hbroken := h.lineFeed_not_mem
  obtain ⟨front, ds, rfl, hds⟩ := h.exists_digits
  rw [List.mem_append, not_or] at hbroken
  exact (isFullLine_of_forall hds.1 fun c hc =>
    isIdentContinue_of_isDigit (hds.2 c hc)).append_left hbroken.1

theorem isFullLine_quoteChars (cs : List Char) : IsFullLine (quoteChars cs) := by
  have hbroken := lineFeed_not_mem_quoteChars cs
  rw [quoteChars, List.mem_append, not_or] at hbroken
  exact isFullLine_concat hbroken.1 (by decide)

theorem isFilled_tabs {cs : List Char} (depth : Nat) (h : IsFilled cs) :
    IsFilled (tabs depth ++ cs) :=
  h.append_left (lineFeed_not_mem_tabs depth)

/-! ## Expressions -/

namespace Expr

mutual
theorem isUnbroken_of_wellFormed : ∀ e : Expr, e.WellFormed → e.IsUnbroken
  | .null, _ | .bool _, _ | .str _, _ => trivial
  | .number _, h => IsNumber.lineFeed_not_mem h
  | .path _, h => fun s hs => lineFeed_not_mem_identifier (h.1.2 s hs)
  | .array items, h => areUnbroken_of_wellFormed items h
  | .object fields, h => areUnbrokenFields_of_wellFormed fields h
  | .call _ args, h =>
    ⟨fun s hs => lineFeed_not_mem_identifier (h.1.1.2 s hs), areUnbroken_of_wellFormed args h.2⟩

theorem areUnbroken_of_wellFormed : ∀ es : List Expr, WellFormedItems es → AreUnbroken es
  | [], _ => trivial
  | e :: es, h => ⟨isUnbroken_of_wellFormed e h.1, areUnbroken_of_wellFormed es h.2⟩

theorem areUnbrokenFields_of_wellFormed : ∀ fields : List (String × Expr),
    WellFormedFields fields → AreUnbrokenFields fields
  | [], _ => trivial
  | (_, e) :: fields, h =>
    ⟨isUnbroken_of_wellFormed e h.1, areUnbrokenFields_of_wellFormed fields h.2⟩
end

/-- A call on one line ends in its parenthesis. -/
theorem isFullLine_call {callee : List String} {args : List Expr}
    (h : (Expr.call callee args).WellFormed) : IsFullLine (Expr.call callee args).compactChars := by
  have hbroken := lineFeed_not_mem_compactChars _ (isUnbroken_of_wellFormed _ h)
  have heq : (Expr.call callee args).compactChars =
      (nameChars callee ++ '(' :: compactItems args) ++ [')'] := by
    simp [compactChars]
  rw [heq, List.mem_append, not_or] at hbroken
  rw [heq]
  exact isFullLine_concat hbroken.1 (by decide)

/-- A key or a name with its value is as full as the value. -/
theorem isFilled_assignment {name cs : List Char} (width : Nat) (hname : '\n' ∉ name)
    (h : IsFilled cs) : IsFilled (padTo width name ++ ' ' :: '=' :: ' ' :: cs) := by
  have hpadded : '\n' ∉ padTo width name ++ [' ', '=', ' '] := by
    simp [padTo, hname]
  simpa using h.append_left hpadded

-- What lays out parts is said with the text behind them: no parts are no line, and the last one
-- shares its line with what closes them.
mutual
theorem isFilled_layoutChars : ∀ (depth : Nat) (e : Expr), e.WellFormed →
    IsFilled (e.layoutChars depth)
  | _, .null, _ => .last (isFullLine_identifier (s := "null") (by decide))
  | _, .bool true, _ => .last (isFullLine_identifier (s := "true") (by decide))
  | _, .bool false, _ => .last (isFullLine_identifier (s := "false") (by decide))
  | _, .number _, h => .last (isFullLine_number h)
  | _, .str s, _ => .last (isFullLine_quoteChars s.toList)
  | _, .path _, h => .last (isFullLine_nameChars h.1)
  | depth, .array items, h => by
    have hclose : IsFilled [']'] := .last (isFullLine_singleton (by decide))
    rw [layoutChars]
    split
    · have hopen : '\n' ∉ ['['] := by decide
      simpa using (isFilled_layoutInline depth items h hclose).append_left hopen
    · have hopen : IsFilled ['['] := .last (isFullLine_singleton (by decide))
      simpa using hopen.append_lineFeed
        (isFilled_layoutItems (depth + 1) items h (isFilled_tabs depth hclose))
  | _, .object [], _ => by
    have hopen : '\n' ∉ ['{'] := by decide
    exact .last (isFullLine_concat hopen (by decide))
  | depth, .object (field :: fields), h => by
    have hopen : IsFilled ['{'] := .last (isFullLine_singleton (by decide))
    have hclose : IsFilled ['}'] := .last (isFullLine_singleton (by decide))
    rw [layoutChars]
    simpa using hopen.append_lineFeed (isFilled_layoutFields (depth + 1)
      (keyWidth (field :: fields)) (field :: fields) h (isFilled_tabs depth hclose))
  | depth, .call callee args, h => by
    rw [layoutChars]
    split
    · have hcallee := (isFullLine_nameChars h.1.1).unbroken
      have hopen : IsFilled (nameChars callee ++ ['(']) :=
        .last (isFullLine_concat hcallee (by decide))
      have hclose : IsFilled [')'] := .last (isFullLine_singleton (by decide))
      simpa using hopen.append_lineFeed
        (isFilled_layoutItems (depth + 1) args h.2 (isFilled_tabs depth hclose))
    · exact .last (isFullLine_call h)

theorem isFilled_layoutInline : ∀ (depth : Nat) (es : List Expr), WellFormedItems es →
    ∀ {rest : List Char}, IsFilled rest → IsFilled (layoutInline depth es ++ rest)
  | _, [], _, _, hrest => hrest
  | depth, [e], h, _, hrest => (isFilled_layoutChars depth e h.1).append hrest
  | depth, e :: e' :: es, h, _, hrest => by
    have hes := isFilled_layoutInline depth (e' :: es) h.2 hrest
    have hcomma : '\n' ∉ [',', ' '] := by decide
    rw [layoutInline_cons]
    simpa using (isFilled_layoutChars depth e h.1).append (hes.append_left hcomma)

theorem isFilled_layoutItems : ∀ (depth : Nat) (es : List Expr), WellFormedItems es →
    ∀ {rest : List Char}, IsFilled rest → IsFilled (layoutItems depth es ++ rest)
  | _, [], _, _, hrest => hrest
  | depth, e :: es, h, _, hrest => by
    have hcomma : IsFilled [','] := .last (isFullLine_singleton (by decide))
    have hitem := (isFilled_tabs depth (isFilled_layoutChars depth e h.1)).append hcomma
    simpa [layoutItems] using
      hitem.append_lineFeed (isFilled_layoutItems depth es h.2 hrest)

theorem isFilled_layoutFields : ∀ (depth width : Nat) (fields : List (String × Expr)),
    WellFormedFields fields →
    ∀ {rest : List Char}, IsFilled rest → IsFilled (layoutFields depth width fields ++ rest)
  | _, _, [], _, _, hrest => hrest
  | depth, width, (key, e) :: fields, h, _, hrest => by
    have hcomma : IsFilled [','] := .last (isFullLine_singleton (by decide))
    have hfield := (isFilled_tabs depth (isFilled_assignment width (lineFeed_not_mem_keyChars key)
      (isFilled_layoutChars depth e h.1))).append hcomma
    simpa [layoutFields] using
      hfield.append_lineFeed (isFilled_layoutFields depth width fields h.2 hrest)
end

end Expr

/-! ## Bodies -/

/-- Whether a text is the given lines, none of which ends in a blank, and this many of which are
empty. -/
structure AreTidyLines (cs : List Char) (lines : List (List Char)) (empty : Nat) : Prop where
  hasLines : HasLines cs lines
  solid : ∀ line ∈ lines, ∀ c ∈ line.getLast?, isBlank c = false
  count_empty : lines.count [] = empty

theorem AreTidyLines.append {as bs : List Char} {lines ms : List (List Char)} {m n : Nat}
    (ha : AreTidyLines as lines m) (hb : AreTidyLines bs ms n) :
    AreTidyLines (as ++ bs) (lines ++ ms) (m + n) where
  hasLines := ha.hasLines.append hb.hasLines
  solid := List.forall_mem_append.2 ⟨ha.solid, hb.solid⟩
  count_empty := by rw [List.count_append, ha.count_empty, hb.count_empty]

/-- A filled text with a line feed behind it is tidy, without empty lines. -/
theorem Text.IsFilled.exists_tidy {cs : List Char} (h : IsFilled cs) :
    ∃ lines, AreTidyLines (cs ++ ['\n']) lines 0 ∧ ∃ line ∈ lines.getLast?, line ≠ [] := by
  obtain ⟨lines, hlines, hne, hfull⟩ := h.exists_lines
  refine ⟨lines, ⟨hlines, fun line hline c hc => ?_, ?_⟩, lines.getLast hne,
    List.getLast?_eq_some_getLast hne, (hfull _ (List.getLast_mem hne)).ne_nil⟩
  · obtain ⟨d, hd, hsolid⟩ := (hfull line hline).solid
    exact Option.mem_unique hc hd ▸ hsolid
  · exact List.count_eq_zero.2 fun hmem => (hfull [] hmem).ne_nil rfl

mutual
/-- How many pairs of neighbours inside the statement have a block among them. -/
def Statement.boundaries : Statement → Nat
  | .attribute .. => 0
  | .block _ _ body => Body.boundaries body

/-- How many pairs of neighbours in the body, or inside its blocks, have a block among them. -/
def Body.boundaries : Body → Nat
  | [] => 0
  | s :: rest => s.boundaries +
    (rest.head?.elim 0 fun t => if s.isBlock || t.isBlock then 1 else 0) + Body.boundaries rest
end

namespace Statement

theorem exists_tidy_gap (earlier : Body) (s : Statement) :
    ∃ lines, AreTidyLines (Body.gap earlier s) lines (Body.gap earlier s).length := by
  unfold Body.gap
  split
  · split
    · exact ⟨[[]], ⟨.single List.not_mem_nil, by simp, rfl⟩⟩
    · exact ⟨[], ⟨.nil, by simp, rfl⟩⟩
  · exact ⟨[], ⟨.nil, by simp, rfl⟩⟩

theorem length_gap_concat (earlier : Body) (s t : Statement) :
    (Body.gap (earlier ++ [s]) t).length = if s.isBlock || t.isBlock then 1 else 0 := by
  rw [Body.gap, List.getLast?_concat]
  dsimp only
  split <;> rfl

theorem lineFeed_not_mem_headerChars {name : List String} (h : IsName name) (label : Option String) :
    '\n' ∉ headerChars name label := by
  have hname := (isFullLine_nameChars h).unbroken
  cases label with
  | none => simpa [headerChars] using hname
  | some l => simp [headerChars, hname, lineFeed_not_mem_quoteChars]

mutual
theorem exists_lines_layoutChars : ∀ (depth width : Nat) (s : Statement), s.WellFormed →
    ∃ lines, AreTidyLines (s.layoutChars depth width) lines s.boundaries ∧
      ∃ line ∈ lines.getLast?, line ≠ []
  | depth, width, .attribute name value, h => by
    have hline := isFilled_tabs depth (Expr.isFilled_assignment width
      (lineFeed_not_mem_identifier h.1) (value.isFilled_layoutChars depth h.2))
    simpa [layoutChars, boundaries] using hline.exists_tidy
  | depth, _, .block name label [], h => by
    have hheader := lineFeed_not_mem_headerChars h.1 label
    have hline : IsFilled (tabs depth ++ (headerChars name label ++ [' ', '{', ' '] ++ ['}'])) :=
      isFilled_tabs depth (.last (isFullLine_concat (by simp [hheader]) (by decide)))
    simpa [layoutChars, boundaries, Body.boundaries] using hline.exists_tidy
  | depth, _, .block name label (s :: body), h => by
    have hheader := lineFeed_not_mem_headerChars h.1 label
    have hopen : IsFilled (tabs depth ++ (headerChars name label ++ [' '] ++ ['{'])) :=
      isFilled_tabs depth (.last (isFullLine_concat (by simp [hheader]) (by decide)))
    have hclose : IsFilled (tabs depth ++ ['}']) :=
      isFilled_tabs depth (.last (isFullLine_singleton (by decide)))
    obtain ⟨opening, hopening, -⟩ := hopen.exists_tidy
    obtain ⟨lines, hlines, -⟩ := exists_lines_layoutBody (depth + 1) .nothing [] (s :: body) h.2 rfl
    obtain ⟨closing, hclosing, last, hlast, hne⟩ := hclose.exists_tidy
    refine ⟨opening ++ lines ++ closing, ?_, last, ?_, hne⟩
    · simpa [layoutChars, boundaries, Body.gap] using (hopening.append hlines).append hclosing
    · rw [List.getLast?_append, Option.mem_def.1 hlast]
      rfl

/-- The canonical layout of a body is tidy lines, by induction on its statements: the empty lines
are the gaps between them, and those inside them. -/
theorem exists_lines_layoutBody : ∀ (depth : Nat) (before : Preceding) (earlier body : Body),
    body.WellFormed → before.Tells earlier body →
    ∃ lines, AreTidyLines (layoutBody depth before body) lines
      ((body.head?.elim 0 fun s => (Body.gap earlier s).length) + body.boundaries) ∧
      lines.getLast? ≠ some []
  | _, _, _, [], _, _ => ⟨[], ⟨.nil, by simp, rfl⟩, by simp⟩
  | depth, before, earlier, s :: later, h, htells => by
    obtain ⟨after, hafter, heq⟩ := exists_layoutBody_cons depth htells
    obtain ⟨gap, hgap⟩ := exists_tidy_gap earlier s
    obtain ⟨lines, hlines, last, hlast, hne⟩ := exists_lines_layoutChars depth
      (longest (Body.run earlier (s :: later)).names) s h.1
    obtain ⟨rest, hrest, hend⟩ := exists_lines_layoutBody depth after (earlier ++ [s]) later h.2
      hafter
    refine ⟨gap ++ lines ++ rest, ?_, ?_⟩
    · -- the gap before the next statement counts as a boundary of this body
      have hall := (hgap.append hlines).append hrest
      simp only [length_gap_concat] at hall
      rw [heq, Body.boundaries, List.head?_cons, Option.elim_some]
      convert hall using 1
      omega
    · rw [List.getLast?_append, List.getLast?_append, Option.mem_def.1 hlast]
      cases hr : rest.getLast? with
      | none => simpa using hne
      | some line => simpa [hr] using hend
end

end Statement

/-! ## Documents -/

namespace Body

/-- The canonical layout of a well-formed document: no line ends in a blank; a text that is not
empty ends in one line feed; there are as many empty lines as neighbours with a block among them,
which stand between these neighbours; and the equals signs of attributes next to each other, and
those of the fields of an object, stand in one column, a blank behind the longest name. -/
theorem canonical_exact (body : Body) (h : body.WellFormed) :
    (∃ lines, HasLines body.canonical.toList lines ∧
      (∀ line ∈ lines, ∀ c ∈ line.getLast?, isBlank c = false) ∧
      lines.count [] = body.boundaries) ∧
    (body.canonical ≠ "" → ∃ front c, body.canonical.toList = front ++ [c, '\n'] ∧ c ≠ '\n') ∧
    Body.IsSetOut [] 0 [] body body.canonical.toList := by
  obtain ⟨lines, hlines, hlast⟩ := Statement.exists_lines_layoutBody 0 .nothing [] body h rfl
  have hgap : (body.head?.elim 0 fun s => (gap [] s).length) = 0 := by
    cases body <;> rfl
  rw [hgap, Nat.zero_add] at hlines
  rw [canonical, String.toList_ofList]
  refine ⟨⟨lines, hlines.hasLines, hlines.solid, hlines.count_empty⟩, fun hne => ?_,
    Statement.isSetOut_layoutBody 0 .nothing [] [] body h rfl rfl⟩
  exact hlines.hasLines.exists_concat (fun hnil => hne (by rw [hnil])) hlast

/-- Two runs of attributes parted by a block; a value in the first run spans lines, with a key that
needs escapes. -/
def partedRuns : Body :=
  [.attribute "url" (.str "a b "),
    .attribute "labels" (.object [("k\n1", .array []), ("env", .object [("a", .null)])]),
    .block ["rule"] (some "x\n") [.attribute "action" (.str "keep"), .block ["c"] none []],
    .attribute "id" (.path ["a", "b"]), .attribute "ratio" (.bool true)]

theorem canonical_exact_partedRuns :
    partedRuns.WellFormed ∧
    (∃ lines, HasLines partedRuns.canonical.toList lines ∧
      (∀ line ∈ lines, ∀ c ∈ line.getLast?, isBlank c = false) ∧ lines.count [] = 3) ∧
    (∃ front c, partedRuns.canonical.toList = front ++ [c, '\n'] ∧ c ≠ '\n') ∧
    Body.IsSetOut [] 0 [] partedRuns partedRuns.canonical.toList := by
  have hpath : IsReference ["a", "b"] := by decide
  have h : partedRuns.WellFormed := by
    refine ⟨⟨by decide, trivial⟩, ⟨by decide, ?_⟩, ⟨by decide, ?_⟩, ⟨by decide, hpath⟩,
      ⟨by decide, trivial⟩, trivial⟩
    · exact ⟨trivial, ⟨trivial, trivial⟩, trivial⟩
    · exact ⟨⟨by decide, trivial⟩, ⟨by decide, trivial⟩, trivial⟩
  obtain ⟨hlines, hend, hsetOut⟩ := canonical_exact partedRuns h
  exact ⟨h, hlines, hend (by decide +kernel), hsetOut⟩

end Body

end AgentConvert
