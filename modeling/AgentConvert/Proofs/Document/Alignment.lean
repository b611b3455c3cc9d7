import AgentConvert.Proofs.Document.Grammar
import AgentConvert.Proofs.Document.Separators
import AgentConvert.Proofs.Document.Spelling
import AgentConvert.Proofs.Text.Lines
import Mathlib.Data.List.DropRight

/-!
# Lines and alignment

The compact layout of an expression has no line feed, since texts and keys escape theirs
(`Expr.lineFeed_not_mem_compactChars`). The canonical layout of an expression that is not to span
lines is the compact one (`Expr.layoutChars_eq_compactChars`), and otherwise it has a line feed
(`Expr.lineFeed_mem_layoutChars`).

How a text sets out a document (`Body.IsSetOut`), said of the text and not of how it is written: its
statements stand one behind the other, with an empty line between two of them if one is a block. An
attribute starts a line at the depth of its body, and its equals sign is in the column behind the
longest name of the attributes around it (`Body.run`). The fields of an object stand in the same way
behind their longest key. The canonical layout of a document sets it out in this way
(`Statement.isSetOut_layoutBody`).
-/

namespace AgentConvert

theorem lineFeed_not_mem_nameChars {segments : List String}
    (h : ∀ s ∈ segments, '\n' ∉ s.toList) : '\n' ∉ nameChars segments :=
  Text.lineFeed_not_mem_intercalate (by decide) h

theorem lineFeed_not_mem_identifier {s : String} (h : isIdentifier s = true) : '\n' ∉ s.toList :=
  lineFeed_not_mem_spelling (t := .ident s) h

theorem lineFeed_not_mem_keyChars (key : String) : '\n' ∉ keyChars key := by
  unfold keyChars
  split
  · rename_i h
    exact lineFeed_not_mem_identifier h
  · exact lineFeed_not_mem_quoteChars _

namespace Expr

mutual
/-- Whether no number and no segment of a name in the expression has a line feed. -/
def IsUnbroken : Expr → Prop
  | .null | .bool _ | .str _ => True
  | .number n => '\n' ∉ n.toList
  | .path segments => ∀ s ∈ segments, '\n' ∉ s.toList
  | .array items => AreUnbroken items
  | .object fields => AreUnbrokenFields fields
  | .call callee args => (∀ s ∈ callee, '\n' ∉ s.toList) ∧ AreUnbroken args

/-- Whether no number and no segment of a name in the items has a line feed. -/
def AreUnbroken : List Expr → Prop
  | [] => True
  | e :: es => e.IsUnbroken ∧ AreUnbroken es

/-- Whether no number and no segment of a name in the values of the fields has a line feed. -/
def AreUnbrokenFields : List (String × Expr) → Prop
  | [] => True
  | (_, e) :: fields => e.IsUnbroken ∧ AreUnbrokenFields fields
end

/-! ## Compact layout -/

mutual
theorem lineFeed_not_mem_compactChars : ∀ e : Expr, e.IsUnbroken → '\n' ∉ e.compactChars
  | .null, _ => by decide
  | .bool true, _ => by decide
  | .bool false, _ => by decide
  | .number _, h => h
  | .str s, _ => lineFeed_not_mem_quoteChars s.toList
  | .path _, h => lineFeed_not_mem_nameChars h
  | .array items, h => by
    simp [compactChars, lineFeed_not_mem_compactItems items h]
  | .object [], _ => by decide
  | .object (field :: fields), h => by
    simp [compactChars, lineFeed_not_mem_compactFields (field :: fields) h]
  | .call callee args, h => by
    simp [compactChars, lineFeed_not_mem_nameChars h.1, lineFeed_not_mem_compactItems args h.2]

theorem lineFeed_not_mem_compactItems : ∀ es : List Expr, AreUnbroken es → '\n' ∉ compactItems es
  | [], _ => by decide
  | [e], h => lineFeed_not_mem_compactChars e h.1
  | e :: e' :: es, h => by
    simp [compactItems, lineFeed_not_mem_compactChars e h.1,
      lineFeed_not_mem_compactItems (e' :: es) h.2]

theorem lineFeed_not_mem_compactFields : ∀ fields : List (String × Expr),
    AreUnbrokenFields fields → '\n' ∉ compactFields fields
  | [], _ => by decide
  | [(key, e)], h => by
    simp [compactFields, lineFeed_not_mem_keyChars key, lineFeed_not_mem_compactChars e h.1]
  | (key, e) :: field :: fields, h => by
    simp [compactFields, lineFeed_not_mem_keyChars key, lineFeed_not_mem_compactChars e h.1,
      lineFeed_not_mem_compactFields (field :: fields) h.2]
end

/-! ## Canonical layout -/

theorem layoutInline_cons (depth : Nat) (e e' : Expr) (es : List Expr) :
    layoutInline depth (e :: e' :: es) =
      e.layoutChars depth ++ ',' :: ' ' :: layoutInline depth (e' :: es) := by
  rw [layoutInline]
  simp

mutual
/-- An expression that is not to span lines has the compact layout. -/
theorem layoutChars_eq_compactChars (depth : Nat) : ∀ e : Expr, e.isMultiline = false →
    e.layoutChars depth = e.compactChars
  | .null, _ | .bool _, _ | .number _, _ | .str _, _ | .path _, _ | .object [], _ => rfl
  | .array items, h => by
    have hitems : anyMultiline items = false := h
    rw [layoutChars, hitems, layoutInline_eq_compactItems depth items hitems]
    rfl
  | .object (_ :: _), h => absurd h (by simp [isMultiline])
  | .call callee args, h => by
    have hargs : anyMultiline args = false := h
    rw [layoutChars, hargs]
    rfl

theorem layoutInline_eq_compactItems (depth : Nat) : ∀ es : List Expr, anyMultiline es = false →
    layoutInline depth es = compactItems es
  | [], _ => rfl
  | [e], h => by
    simp only [anyMultiline, Bool.or_false] at h
    exact layoutChars_eq_compactChars depth e h
  | e :: e' :: es, h => by
    rw [anyMultiline, Bool.or_eq_false_iff] at h
    rw [layoutInline_cons, compactItems, layoutChars_eq_compactChars depth e h.1,
      layoutInline_eq_compactItems depth (e' :: es) h.2]
    simp
end

mutual
/-- An expression that is to span lines does so. -/
theorem lineFeed_mem_layoutChars (depth : Nat) : ∀ e : Expr, e.isMultiline = true →
    '\n' ∈ e.layoutChars depth
  | .null, h | .bool _, h | .number _, h | .str _, h | .path _, h | .object [], h =>
    absurd h Bool.false_ne_true
  | .array items, h => by
    rw [layoutChars]
    split
    · -- objects that open on the line of the array bring the line feeds of their fields
      simp [lineFeed_mem_layoutInline depth items h]
    · simp
  | .object (_ :: _), _ => by simp [layoutChars]
  | .call callee args, h => by
    have hargs : anyMultiline args = true := h
    rw [layoutChars, hargs]
    simp

theorem lineFeed_mem_layoutInline (depth : Nat) : ∀ es : List Expr, anyMultiline es = true →
    '\n' ∈ layoutInline depth es
  | [], h => absurd h Bool.false_ne_true
  | [e], h => by
    simp only [anyMultiline, Bool.or_false] at h
    exact lineFeed_mem_layoutChars depth e h
  | e :: e' :: es, h => by
    rw [anyMultiline, Bool.or_eq_true] at h
    rw [layoutInline_cons]
    rcases h with h | h
    · simp [lineFeed_mem_layoutChars depth e h]
    · simp [lineFeed_mem_layoutInline depth (e' :: es) h]
end

/-- The canonical layout of an expression has a line feed just if the expression is said to span
lines, at any depth, and otherwise it is the compact layout, which never has one. -/
theorem isMultiline_exact (e : Expr) (h : e.IsUnbroken) :
    (∀ depth, ('\n' ∈ e.layoutChars depth ↔ e.isMultiline = true) ∧
      (e.isMultiline = false → e.layoutChars depth = e.compactChars)) ∧
    '\n' ∉ e.compactChars := by
  have hcompact : '\n' ∉ e.compactChars := lineFeed_not_mem_compactChars e h
  refine ⟨fun depth => ⟨⟨fun hmem => ?_, lineFeed_mem_layoutChars depth e⟩,
    layoutChars_eq_compactChars depth e⟩, hcompact⟩
  by_contra hsingle
  rw [layoutChars_eq_compactChars depth e (Bool.not_eq_true _ ▸ hsingle)] at hmem
  exact hcompact hmem

/-- A call in an array, with an object, an empty object and a text of two lines. -/
def joinedTargets : Expr :=
  .array [.call ["concat"] [.object [], .str "a\nb", .object [("x\n", .number "1")]],
    .path ["a", "b"]]

/-- It spans lines for the object, and not for what is around it. -/
theorem isMultiline_exact_joined :
    joinedTargets.IsUnbroken ∧ '\n' ∈ joinedTargets.layoutChars 2 ∧
      '\n' ∉ joinedTargets.compactChars := by
  have h : joinedTargets.IsUnbroken := by
    simp [joinedTargets, IsUnbroken, AreUnbroken, AreUnbrokenFields]
  obtain ⟨hlayout, hcompact⟩ := isMultiline_exact joinedTargets h
  exact ⟨h, (hlayout 2).1.2 rfl, hcompact⟩

end Expr

/-! ## Names above each other -/

/-- The length of the longest name. -/
def longest (names : List (List Char)) : Nat := (names.map List.length).foldr max 0

theorem length_le_longest {name : List Char} {names : List (List Char)} (h : name ∈ names) :
    name.length ≤ longest names := by
  induction names with
  | nil => exact absurd h List.not_mem_nil
  | cons n names ih =>
    rcases List.mem_cons.1 h with rfl | h
    · exact Nat.le_max_left ..
    · exact (ih h).trans (Nat.le_max_right ..)

/-- Whether `head` starts a line behind `before` that gives `name` a value: it has the name at
`depth`, blanks, and an equals sign one column behind names of the given width. -/
structure IsHead (before : List Char) (depth width : Nat) (name head : List Char) : Prop where
  atStart : Text.column before = 0
  exists_gap : ∃ gap, head = tabs depth ++ name ++ gap ++ ['=', ' '] ∧ gap ≠ [] ∧
    (∀ c ∈ gap, c = ' ') ∧ Text.column (before ++ (tabs depth ++ name ++ gap)) = depth + width + 1

theorem lineFeed_not_mem_tabs (depth : Nat) : '\n' ∉ tabs depth := fun h =>
  absurd (List.eq_of_mem_replicate h) (by decide)

/-- A name that is padded to a width heads a line of this width. -/
theorem isHead_padTo {before name : List Char} {width : Nat} (depth : Nat)
    (hstart : Text.column before = 0) (hname : '\n' ∉ name) (hwidth : name.length ≤ width) :
    IsHead before depth width name
      (tabs depth ++ Expr.padTo width name ++ [' ', '=', ' ']) := by
  have hspaces : ∀ c ∈ List.replicate (width - name.length) ' ' ++ [' '], c = ' ' := by
    simp only [List.mem_append, List.mem_replicate, List.mem_singleton]
    rintro c (⟨-, rfl⟩ | rfl) <;> rfl
  have hbroken : '\n' ∉ List.replicate (width - name.length) ' ' ++ [' '] := fun h =>
    absurd (hspaces _ h) (by decide)
  refine ⟨hstart, List.replicate (width - name.length) ' ' ++ [' '], by simp [Expr.padTo], by simp,
    hspaces, ?_⟩
  have hline : '\n' ∉ tabs depth ++ name ++ (List.replicate (width - name.length) ' ' ++ [' ']) := by
    simp only [List.mem_append, not_or] at hbroken ⊢
    exact ⟨⟨lineFeed_not_mem_tabs depth, hname⟩, hbroken⟩
  rw [Text.column_append hline, hstart]
  simp only [tabs, List.length_append, List.length_replicate, List.length_singleton]
  omega

/-! ## Expressions -/

namespace Expr

mutual
/-- Whether `cs` sets out the expression behind `before`. What has no parts is compact, and the
fields of an object are a level deeper than the line that closes it. -/
inductive IsSetOut : List Char → Expr → List Char → Prop
  | leaf {before : List Char} {e : Expr} (h : e.walk = [e]) : IsSetOut before e e.compactChars
  | array {before inner : List Char} {items : List Expr}
    (h : AreSetOut (before ++ ['[']) items inner) :
    IsSetOut before (.array items) ('[' :: (inner ++ [']']))
  | call {before inner : List Char} {callee : List String} {args : List Expr}
    (h : AreSetOut (before ++ (nameChars callee ++ ['('])) args inner) :
    IsSetOut before (.call callee args) (nameChars callee ++ '(' :: (inner ++ [')']))
  | object {before inner : List Char} {depth : Nat} {fields : List (String × Expr)}
    (hne : fields ≠ [])
    (h : FieldsAreSetOut (before ++ ['{', '\n']) (depth + 1)
      (longest (fields.map (keyChars ·.1))) fields inner) :
    IsSetOut before (.object fields) ('{' :: '\n' :: (inner ++ tabs depth ++ ['}']))

/-- Whether `cs` sets out the items behind `before`, with commas, blanks and line feeds between
them. -/
inductive AreSetOut : List Char → List Expr → List Char → Prop
  | nil {before gap : List Char} (h : ∀ c ∈ gap, c ∈ [',', ' ', '\t', '\n']) :
    AreSetOut before [] gap
  | cons {before gap cs ds : List Char} {e : Expr} {es : List Expr}
    (h : ∀ c ∈ gap, c ∈ [',', ' ', '\t', '\n']) (he : IsSetOut (before ++ gap) e cs)
    (hes : AreSetOut (before ++ gap ++ cs) es ds) : AreSetOut before (e :: es) (gap ++ cs ++ ds)

/-- Whether `cs` sets out the fields behind `before`: each with a line that it heads, and a comma at
its end. -/
inductive FieldsAreSetOut : List Char → Nat → Nat → List (String × Expr) → List Char → Prop
  | nil {before : List Char} {depth width : Nat} : FieldsAreSetOut before depth width [] []
  | cons {before head cs ds : List Char} {depth width : Nat} {key : String} {e : Expr}
    {fields : List (String × Expr)} (hhead : IsHead before depth width (keyChars key) head)
    (he : IsSetOut (before ++ head) e cs)
    (hfields : FieldsAreSetOut (before ++ head ++ cs ++ [',', '\n']) depth width fields ds) :
    FieldsAreSetOut before depth width ((key, e) :: fields) (head ++ cs ++ [',', '\n'] ++ ds)
end

theorem keyWidth_eq (fields : List (String × Expr)) :
    keyWidth fields = longest (fields.map (keyChars ·.1)) := by
  have hfold : ∀ width, fields.foldl (fun width field => max width (keyChars field.1).length) width =
      max width (longest (fields.map (keyChars ·.1))) := by
    induction fields with
    | nil => exact fun width => (Nat.max_zero width).symm
    | cons field fields ih =>
      intro width
      rw [List.foldl_cons, ih, Nat.max_assoc]
      rfl
  rw [keyWidth, hfold, Nat.zero_max]

theorem length_keyChars_le {field : String × Expr} {fields : List (String × Expr)}
    (h : field ∈ fields) :
    (keyChars field.1).length ≤ longest (fields.map (keyChars ·.1)) :=
  length_le_longest (List.mem_map.2 ⟨field, h, rfl⟩)

theorem separates_tabs {depth : Nat} : ∀ c ∈ tabs depth, c ∈ [',', ' ', '\t', '\n'] := fun c hc => by
  rw [List.eq_of_mem_replicate hc]
  decide

mutual
/-- The canonical layout sets out an expression, wherever it stands. -/
theorem isSetOut_layoutChars : ∀ (depth : Nat) (before : List Char) (e : Expr),
    e.IsSetOut before (e.layoutChars depth)
  | _, _, .null | _, _, .bool _ | _, _, .number _ | _, _, .str _ | _, _, .path _
  | _, _, .object [] => .leaf rfl
  | depth, before, .array items => by
    rw [layoutChars]
    split
    · exact .array (areSetOut_layoutInline depth (before ++ ['[']) [] (by simp) items)
    · have hitems := areSetOut_layoutItems depth (depth + 1) (before ++ ['[']) ['\n'] (by simp)
        items
      simpa using IsSetOut.array hitems
  | depth, before, .object (field :: fields) => by
    rw [layoutChars, keyWidth_eq]
    have hfields := fieldsAreSetOut_layoutFields (depth + 1)
      (longest ((field :: fields).map (keyChars ·.1))) (before ++ ['{', '\n'])
      (by simp [Text.column]) (field :: fields) fun _ => length_keyChars_le
    have hobject : (Expr.object (field :: fields)).IsSetOut before
        ('{' :: '\n' :: (_ ++ tabs depth ++ ['}'])) := .object (by simp) hfields
    simpa using hobject
  | depth, before, .call callee args => by
    rw [layoutChars]
    split
    · have hargs := areSetOut_layoutItems depth (depth + 1) (before ++ (nameChars callee ++ ['(']))
        ['\n'] (by simp) args
      simpa using IsSetOut.call hargs
    · rename_i hsingle
      have hargs := areSetOut_layoutInline depth (before ++ (nameChars callee ++ ['('])) []
        (by simp) args
      rw [layoutInline_eq_compactItems depth args (by simpa using hsingle)] at hargs
      simpa [compactChars] using IsSetOut.call hargs

theorem areSetOut_layoutInline : ∀ (depth : Nat) (before gap : List Char),
    (∀ c ∈ gap, c ∈ [',', ' ', '\t', '\n']) → ∀ es : List Expr,
    AreSetOut before es (gap ++ layoutInline depth es)
  | _, _, gap, h, [] => by
    rw [layoutInline, List.append_nil]
    exact .nil h
  | depth, before, gap, h, [e] => by
    have he := isSetOut_layoutChars depth (before ++ gap) e
    have hnone : AreSetOut (before ++ gap ++ e.layoutChars depth) [] [] := .nil (by simp)
    simpa [layoutInline] using AreSetOut.cons h he hnone
  | depth, before, gap, h, e :: e' :: es => by
    have he := isSetOut_layoutChars depth (before ++ gap) e
    have hes := areSetOut_layoutInline depth (before ++ gap ++ e.layoutChars depth) [',', ' ']
      (by simp) (e' :: es)
    rw [layoutInline_cons]
    simpa using AreSetOut.cons h he hes

theorem areSetOut_layoutItems : ∀ (outer depth : Nat) (before gap : List Char),
    (∀ c ∈ gap, c ∈ [',', ' ', '\t', '\n']) → ∀ es : List Expr,
    AreSetOut before es (gap ++ layoutItems depth es ++ tabs outer)
  | _, _, _, gap, h, [] => by
    rw [layoutItems, List.append_nil]
    exact .nil fun c hc => (List.mem_append.1 hc).elim (h c) (separates_tabs c)
  | outer, depth, before, gap, h, e :: es => by
    have hgap : ∀ c ∈ gap ++ tabs depth, c ∈ [',', ' ', '\t', '\n'] := fun c hc =>
      (List.mem_append.1 hc).elim (h c) (separates_tabs c)
    have he := isSetOut_layoutChars depth (before ++ (gap ++ tabs depth)) e
    have hes := areSetOut_layoutItems outer depth
      (before ++ (gap ++ tabs depth) ++ e.layoutChars depth) [',', '\n'] (by simp) es
    simpa [layoutItems] using AreSetOut.cons hgap he hes

theorem fieldsAreSetOut_layoutFields : ∀ (depth width : Nat) (before : List Char),
    Text.column before = 0 → ∀ fields : List (String × Expr),
    (∀ field ∈ fields, (keyChars field.1).length ≤ width) →
    FieldsAreSetOut before depth width fields (layoutFields depth width fields)
  | _, _, _, _, [], _ => .nil
  | depth, width, before, hstart, (key, e) :: fields, h => by
    obtain ⟨hkey, hkeys⟩ := List.forall_mem_cons.1 h
    have hhead := isHead_padTo depth hstart (lineFeed_not_mem_keyChars key) hkey
    have he := isSetOut_layoutChars depth
      (before ++ (tabs depth ++ padTo width (keyChars key) ++ [' ', '=', ' '])) e
    have hfields := fieldsAreSetOut_layoutFields depth width
      (before ++ (tabs depth ++ padTo width (keyChars key) ++ [' ', '=', ' ']) ++
        e.layoutChars depth ++ [',', '\n']) (by simp [Text.column]) fields hkeys
    simpa [layoutFields] using FieldsAreSetOut.cons hhead he hfields
end

end Expr

/-! ## Bodies -/

namespace Body

/-- The names of the attributes of a body. -/
def names (body : Body) : List (List Char) :=
  body.filterMap fun
    | .attribute name _ => some name.toList
    | .block .. => none

/-- The attributes around a place in a body that no block parts from it. -/
def run (earlier later : Body) : Body :=
  earlier.rtakeWhile (!·.isBlock) ++ later.takeWhile (!·.isBlock)

/-- What parts a statement from those before it: an empty line if it or the last of them is a
block. -/
def gap (earlier : Body) (s : Statement) : List Char :=
  match earlier.getLast? with
  | some previous => if previous.isBlock || s.isBlock then ['\n'] else []
  | none => []

end Body

mutual
/-- Whether `cs` sets out a statement of a body at `depth` behind `before`; the names of the
attributes around it have the given width. -/
inductive Statement.IsSetOut : List Char → Nat → Nat → Statement → List Char → Prop
  | attribute {before head cs : List Char} {depth width : Nat} {name : String} {value : Expr}
    (hhead : IsHead before depth width name.toList head)
    (hvalue : value.IsSetOut (before ++ head) cs) :
    Statement.IsSetOut before depth width (.attribute name value) (head ++ cs ++ ['\n'])
  | emptyBlock {before : List Char} {depth width : Nat} {name : List String} {label : Option String}
    (hstart : Text.column before = 0) :
    Statement.IsSetOut before depth width (.block name label [])
      (tabs depth ++ headerChars name label ++ [' ', '{', ' ', '}', '\n'])
  | block {before inner : List Char} {depth width : Nat} {name : List String}
    {label : Option String} {body : Body} (hstart : Text.column before = 0) (hne : body ≠ [])
    (hbody : Body.IsSetOut (before ++ (tabs depth ++ headerChars name label ++ [' ', '{', '\n']))
      (depth + 1) [] body inner) :
    Statement.IsSetOut before depth width (.block name label body)
      (tabs depth ++ headerChars name label ++ [' ', '{', '\n'] ++ inner ++
        (tabs depth ++ ['}', '\n']))

/-- Whether `cs` sets out statements at `depth` behind `before`, where the statements `earlier` of
the same body end. -/
inductive Body.IsSetOut : List Char → Nat → Body → Body → List Char → Prop
  | nil {before : List Char} {depth : Nat} {earlier : Body} :
    Body.IsSetOut before depth earlier [] []
  | cons {before cs ds : List Char} {depth : Nat} {earlier later : Body} {s : Statement}
    (hs : s.IsSetOut (before ++ Body.gap earlier s) depth
      (longest (Body.run earlier (s :: later)).names) cs)
    (hlater : Body.IsSetOut (before ++ Body.gap earlier s ++ cs) depth (earlier ++ [s]) later ds) :
    Body.IsSetOut before depth earlier (s :: later) (Body.gap earlier s ++ cs ++ ds)
end

namespace Statement

variable {earlier later : Body} {before : Preceding} {name : String} {value : Expr}

theorem runWidth_eq (body : Body) :
    runWidth body = longest (Body.names (body.takeWhile (!·.isBlock))) := by
  induction body with
  | nil => rfl
  | cons s body ih =>
    cases s with
    | «attribute» name value =>
      rw [runWidth, ih, ← String.length_toList]
      rfl
    | block name label inner => rfl

theorem run_attribute (earlier later : Body) (name : String) (value : Expr) :
    Body.run (earlier ++ [.attribute name value]) later =
      Body.run earlier (.attribute name value :: later) := by
  rw [Body.run, Body.run, List.rtakeWhile_concat_pos _ _ _ (by simp [isBlock]),
    List.takeWhile_cons_of_pos (by simp [isBlock]), List.append_assoc, List.singleton_append]

/-- Whether `before` tells what the statements `earlier` of a body end in, and how wide the names
are around this place. -/
def Preceding.Tells (before : Preceding) (earlier later : Body) : Prop :=
  match before with
  | .nothing => earlier = []
  | .aBlock => ∃ front name label inner, earlier = front ++ [.block name label inner]
  | .aRun width => (∃ front name value, earlier = front ++ [.attribute name value]) ∧
    width = longest (Body.run earlier later).names

theorem run_of_tells (h : before.Tells earlier later) (hbefore : ∀ width, before ≠ .aRun width) :
    Body.run earlier later = later.takeWhile (!·.isBlock) := by
  cases before with
  | nothing =>
    obtain rfl : earlier = [] := h
    rfl
  | aBlock =>
    obtain ⟨front, name, label, inner, rfl⟩ := h
    rw [Body.run, List.rtakeWhile_concat_neg _ _ _ (by simp [isBlock]), List.nil_append]
  | aRun width => exact absurd rfl (hbefore width)

/-- A body is laid out statement by statement: each behind its gap, with the names of an attribute
as wide as those around it. -/
theorem exists_layoutBody_cons {s : Statement} (depth : Nat) (h : before.Tells earlier (s :: later)) :
    ∃ after : Preceding, after.Tells (earlier ++ [s]) later ∧
      layoutBody depth before (s :: later) = Body.gap earlier s ++
        s.layoutChars depth (longest (Body.run earlier (s :: later)).names) ++
        layoutBody depth after later := by
  cases s with
  | «attribute» name value =>
    refine ⟨.aRun (longest (Body.run earlier (.attribute name value :: later)).names),
      ⟨⟨earlier, name, value, rfl⟩, by rw [run_attribute]⟩, ?_⟩
    cases before with
    | nothing =>
      rw [run_of_tells h (by simp), ← runWidth_eq, layoutBody]
      · obtain rfl : earlier = [] := h
        simp [Body.gap]
      · simp
    | aBlock =>
      rw [run_of_tells h (by simp), ← runWidth_eq, layoutBody]
      · obtain ⟨front, n, l, inner, rfl⟩ := h
        simp [Body.gap, isBlock]
      · simp
    | aRun width =>
      obtain ⟨⟨front, n, v, rfl⟩, rfl⟩ := h
      rw [layoutBody]
      simp [Body.gap, isBlock]
  | block name label inner =>
    refine ⟨.aBlock, ⟨earlier, name, label, inner, rfl⟩, ?_⟩
    have hwidth : ∀ width, (Statement.block name label inner).layoutChars depth width =
        (Statement.block name label inner).layoutChars depth 0 := by
      cases inner <;> exact fun _ => rfl
    rw [layoutBody, hwidth (longest _)]
    cases before with
    | nothing =>
      obtain rfl : earlier = [] := h
      simp [Body.gap]
    | aBlock =>
      obtain ⟨front, n, l, b, rfl⟩ := h
      simp [Body.gap, isBlock]
    | aRun width =>
      obtain ⟨⟨front, n, v, rfl⟩, -⟩ := h
      simp [Body.gap, isBlock]

theorem column_gap {text : List Char} (h : Text.column text = 0) (earlier : Body) (s : Statement) :
    Text.column (text ++ Body.gap earlier s) = 0 := by
  unfold Body.gap
  split
  · split
    · exact Text.column_lineFeed text
    · rwa [List.append_nil]
  · rwa [List.append_nil]

/-- A statement ends its last line. -/
theorem column_layoutChars (text : List Char) (depth width : Nat) (s : Statement) :
    Text.column (text ++ s.layoutChars depth width) = 0 := by
  have hends : ∃ cs, s.layoutChars depth width = cs ++ ['\n'] := by
    cases s with
    | «attribute» name value => exact ⟨_, rfl⟩
    | block name label body =>
      cases body with
      | nil => exact ⟨tabs depth ++ headerChars name label ++ [' ', '{', ' ', '}'], by
          simp [layoutChars]⟩
      | cons s body => exact ⟨tabs depth ++ headerChars name label ++ ' ' :: '{' :: '\n' ::
          layoutBody (depth + 1) .nothing (s :: body) ++ tabs depth ++ ['}'], by simp [layoutChars]⟩
  obtain ⟨cs, hcs⟩ := hends
  rw [hcs, ← List.append_assoc]
  exact Text.column_lineFeed _

theorem length_le_width (earlier later : Body) (s : Statement) : ∀ n ∈ Body.names [s],
    n.length ≤ longest (Body.run earlier (s :: later)).names := by
  intro n hn
  refine length_le_longest ?_
  cases s with
  | «attribute» name value =>
    rw [List.mem_singleton.1 hn]
    simp [Body.run, Body.names, isBlock]
  | block name label inner => exact absurd hn List.not_mem_nil

mutual
theorem isSetOut_layoutChars : ∀ (depth width : Nat) (text : List Char) (s : Statement),
    s.WellFormed → Text.column text = 0 → (∀ n ∈ Body.names [s], n.length ≤ width) →
    s.IsSetOut text depth width (s.layoutChars depth width)
  | depth, width, text, .attribute name value, h, hstart, hwidth => by
    have hhead := isHead_padTo depth hstart (lineFeed_not_mem_identifier h.1)
      (hwidth name.toList (List.mem_singleton_self _))
    have hvalue := value.isSetOut_layoutChars depth
      (text ++ (tabs depth ++ Expr.padTo width name.toList ++ [' ', '=', ' ']))
    simpa [layoutChars] using Statement.IsSetOut.attribute hhead hvalue
  | _, _, _, .block _ _ [], _, hstart, _ => .emptyBlock hstart
  | depth, width, text, .block name label (s :: body), h, hstart, _ => by
    have hbody := isSetOut_layoutBody (depth + 1) .nothing
      (text ++ (tabs depth ++ headerChars name label ++ [' ', '{', '\n'])) [] (s :: body) h.2
      (by simp [Text.column]) rfl
    have hblock : Statement.IsSetOut text depth width (.block name label (s :: body)) _ :=
      .block hstart (by simp) hbody
    simpa [layoutChars] using hblock

/-- The canonical layout sets out a body, by induction on its statements: what precedes each of
them tells about all statements before it. -/
theorem isSetOut_layoutBody : ∀ (depth : Nat) (before : Preceding) (text : List Char)
    (earlier body : Body), body.WellFormed → Text.column text = 0 → before.Tells earlier body →
    Body.IsSetOut text depth earlier body (layoutBody depth before body)
  | _, _, _, _, [], _, _, _ => .nil
  | depth, before, text, earlier, s :: later, h, hstart, htells => by
    obtain ⟨after, hafter, heq⟩ := exists_layoutBody_cons depth htells
    let width := longest (Body.run earlier (s :: later)).names
    have hs := isSetOut_layoutChars depth width (text ++ Body.gap earlier s) s h.1
      (column_gap hstart earlier s) (length_le_width earlier later s)
    have hlater := isSetOut_layoutBody depth after
      (text ++ Body.gap earlier s ++ s.layoutChars depth width) (earlier ++ [s]) later h.2
      (column_layoutChars _ depth width s) hafter
    rw [heq]
    exact .cons hs hlater
end

end Statement

end AgentConvert
