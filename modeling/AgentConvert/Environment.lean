import AgentConvert.Document.Identifier

/-!
# Environment references

Expansion of references to environment variables in a configuration's text, in one pass from left
to right: `$$` is a dollar sign, `${NAME}` and `$NAME` stand for a variable, and `${NAME:default}`
or `${NAME:-default}` for a variable with a default. What is put in is not looked at again.
-/

namespace AgentConvert.Environment

/-- A reference: a variable, and what stands for it when it is not set. -/
structure Reference where
  name : List Char
  default : List Char
  deriving DecidableEq

/-- The name at the head of `cs`, if one stands there, and what follows it. -/
def takeName? (cs : List Char) : Option (List Char × List Char) :=
  match cs with
  | [] => none
  | c :: rest =>
    if isIdentStart c then
      some (c :: rest.takeWhile isIdentContinue, rest.dropWhile isIdentContinue)
    else none

/-- The default and the closing brace at the head of `cs`, behind a colon. -/
def takeDefault? (cs : List Char) : Option (List Char × List Char) :=
  let text := if cs.head? = some '-' then cs.drop 1 else cs
  match text.dropWhile (· != '}') with
  | '}' :: rest => some (text.takeWhile (· != '}'), rest)
  | _ => none

/-- The reference behind a dollar sign at the head of `cs`, and what follows it. -/
def takeReference? (cs : List Char) : Option (Reference × List Char) :=
  match cs with
  | '{' :: inner =>
    match takeName? inner with
    | some (name, '}' :: rest) => some (⟨name, []⟩, rest)
    | some (name, ':' :: rest) => (takeDefault? rest).map fun d => (⟨name, d.1⟩, d.2)
    | _ => none
  | cs => (takeName? cs).map fun n => (⟨n.1, []⟩, n.2)

theorem length_takeName? {cs : List Char} {r : List Char × List Char} (h : takeName? cs = some r) :
    r.2.length < cs.length := by
  unfold takeName? at h
  split at h
  · simp at h
  · split at h
    · rename_i c rest _
      simp only [Option.some.injEq] at h
      have := (List.dropWhile_sublist isIdentContinue (l := rest)).length_le
      simp only [← h, List.length_cons]
      omega
    · simp at h

theorem length_takeDefault? {cs : List Char} {r : List Char × List Char}
    (h : takeDefault? cs = some r) : r.2.length < cs.length := by
  unfold takeDefault? at h
  dsimp only at h
  have htext : (if cs.head? = some '-' then cs.drop 1 else cs).length ≤ cs.length := by
    split
    · rw [List.length_drop]
      omega
    · exact Nat.le_refl _
  generalize (if cs.head? = some '-' then cs.drop 1 else cs) = text at h htext
  have hdrop := (List.dropWhile_sublist (· != '}') (l := text)).length_le
  split at h
  · rename_i rest heq
    rw [heq, List.length_cons] at hdrop
    simp only [Option.some.injEq] at h
    rw [← h]
    dsimp only
    omega
  · simp at h

theorem length_takeReference? {cs : List Char} {r : Reference × List Char}
    (h : takeReference? cs = some r) : r.2.length < cs.length := by
  unfold takeReference? at h
  split at h
  · rename_i inner
    split at h
    · rename_i name rest heq
      have := length_takeName? heq
      simp only [Option.some.injEq] at h
      simp only [List.length_cons, ← h] at this ⊢
      omega
    · rename_i name rest heq
      have := length_takeName? heq
      simp only [Option.map_eq_some_iff] at h
      obtain ⟨d, hd, rfl⟩ := h
      have := length_takeDefault? hd
      simp only [List.length_cons] at *
      omega
    · simp at h
  · simp only [Option.map_eq_some_iff] at h
    obtain ⟨n, hn, rfl⟩ := h
    exact length_takeName? hn

/-! ## Expansion -/

/-- A piece of a text. -/
inductive Piece where
  | literal (c : Char)
  | reference (r : Reference)
  deriving DecidableEq

namespace Piece

/-- What stands for a piece; `lookup` gives the value of a variable that is set. -/
def chars (lookup : String → Option String) : Piece → List Char
  | literal c => [c]
  | reference r => ((lookup (String.ofList r.name)).map String.toList).getD r.default

/-- The variable that a piece refers to. -/
def name? : Piece → Option String
  | literal _ => none
  | reference r => some (String.ofList r.name)

end Piece

/-- The pieces of a text, from left to right. -/
def pieces (cs : List Char) : List Piece :=
  match cs with
  | [] => []
  | '$' :: '$' :: rest => .literal '$' :: pieces rest
  | '$' :: rest =>
    match _h : takeReference? rest with
    | some (r, after) => .reference r :: pieces after
    | none => .literal '$' :: pieces rest
  | c :: rest => .literal c :: pieces rest
  termination_by cs.length
  decreasing_by
    · simp only [List.length_cons]; omega
    · have := length_takeReference? _h
      simp only [List.length_cons] at *
      omega
    · simp
    · simp

/-- The variables that a text refers to. -/
def names (text : String) : List String := (pieces text.toList).filterMap Piece.name?

/-- `cs` with its references expanded. -/
def expandChars (lookup : String → Option String) (cs : List Char) : List Char :=
  (pieces cs).flatMap (Piece.chars lookup)

/-- `text` with its references expanded; `lookup` gives the value of a variable that is set. -/
def expand (lookup : String → Option String) (text : String) : String :=
  String.ofList (expandChars lookup text.toList)

end AgentConvert.Environment
