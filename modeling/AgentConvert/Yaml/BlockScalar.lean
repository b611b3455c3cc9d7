import AgentConvert.Value.Basic
import AgentConvert.Yaml.Character

/-!
# Block scalars

Scalars that stand on lines of their own, indented deeper than what holds them. The indentation is
given in the header, or found from the first line that is not empty. In a folded scalar a line
break between two lines that do not start with a blank becomes a space. The header also says what
becomes of the breaks at the end: one is kept, or none, or all.
-/

namespace AgentConvert.Yaml

/-- What becomes of the line breaks at the end of a block scalar. -/
inductive Chomping where
  | strip
  | clip
  | keep
  deriving DecidableEq

/-- The header of a block scalar. -/
structure BlockHeader where
  chomping : Chomping
  /-- How much deeper the scalar is indented than what holds it. -/
  increment : Option Nat
  rest : Chars

namespace BlockHeader

/-- The chomping that stands at the head. -/
def chomping? (cs : Chars) : Option Chomping :=
  if cs.startsWith '+' then some .keep else if cs.startsWith '-' then some .strip else none

/-- The digit at the head. -/
def digit? (cs : Chars) : Option Nat :=
  (cs.head?.filter Char.isDigit).map fun c => c.toNat - '0'.toNat

/-- Reads the header behind the mark of the scalar, with the line that it ends. The chomping and
the increment may stand in either order. -/
def read? (cs : Chars) : Option BlockHeader := do
  let before := chomping? cs
  let cs : Chars := if before.isSome then cs.drop 1 else cs
  let increment := digit? cs
  if increment == some 0 then failure
  let cs : Chars := if increment.isSome then cs.drop 1 else cs
  let behind := if before.isNone && increment.isSome then chomping? cs else none
  let cs : Chars := if behind.isSome then cs.drop 1 else cs
  return ⟨(before.or behind).getD .clip, increment, ← cs.afterLine?⟩

end BlockHeader

/-- Empty lines and the indentation of the line behind them. -/
structure Margin where
  breaks : List Char
  /-- The width of the widest indentation. -/
  widest : Nat
  rest : Chars

/-- Takes the empty lines and the indentation at the head of `cs`, up to the column `indent` if it
is known. No tab may stand in the indentation. -/
def Margin.of? (indent : Option Nat) (cs : Chars) : Option Margin :=
  match cs with
  | [] => some ⟨[], 0, []⟩
  | c :: rest =>
    if c.isBlank && indent.all (c.column < ·) then
      if c.char == '\t' then none
      else (of? indent rest).map fun m => { m with widest := max (c.column + 1) m.widest }
    else if c.endsLine then
      (of? indent rest).map fun m => { m with breaks := c.char :: m.breaks }
    else some ⟨[], 0, c :: rest⟩

theorem Margin.length_of? {indent : Option Nat} {cs : Chars} {m : Margin}
    (h : of? indent cs = some m) : m.rest.length ≤ cs.length := by
  fun_induction of? indent cs generalizing m with
  | case1 =>
    cases h
    exact Nat.le_refl _
  | case2 => simp at h
  | case3 c rest _ _ ih =>
    simp only [Option.map_eq_some_iff] at h
    obtain ⟨m', hm, rfl⟩ := h
    have := ih hm
    simp only [List.length_cons]
    omega
  | case4 c rest _ _ ih =>
    simp only [Option.map_eq_some_iff] at h
    obtain ⟨m', hm, rfl⟩ := h
    have := ih hm
    simp only [List.length_cons]
    omega
  | case5 =>
    cases h
    exact Nat.le_refl _

namespace BlockScalar

/-- The lines of a block scalar that were read: their text, the break that ended the last one, and
whether that one started with a blank. -/
structure Lines where
  text : Array Char
  ending : List Char
  blank : Bool

/-- Reads the lines that are indented by `indent` behind a margin. The result has the breaks of the
last margin. -/
def linesFrom (isFolded : Bool) (indent : Nat) (m : Margin) (lines : Lines) :
    Option (Lines × Margin) :=
  match _hm : m.rest with
  | [] => some (lines, m)
  | c :: rest =>
    if c.column == indent then
      let isJoined := isFolded && lines.ending == ['\n'] && !lines.blank && !c.isBlank
      let joint := if isJoined then (if m.breaks.isEmpty then [' '] else []) else lines.ending
      let line := c :: rest.takeWhile (!·.endsLine)
      let after := rest.dropWhile (!·.endsLine)
      match _hn : Margin.of? (some indent) (after.drop 1) with
      | none => none
      | some next =>
        linesFrom isFolded indent next
          ⟨lines.text ++ (joint ++ m.breaks ++ line.map Character.char).toArray,
            (after.take 1).map Character.char, c.isBlank⟩
    else some (lines, m)
  termination_by m.rest.length
  decreasing_by
    have hnext := Margin.length_of? _hn
    have hafter : after.length ≤ rest.length := (List.dropWhile_sublist _).length_le
    simp only [List.length_drop] at hnext
    simp only [_hm, List.length_cons]
    omega

/-- The breaks at the end that are kept. -/
def tail (chomping : Chomping) (lines : Lines) (m : Margin) : List Char :=
  match chomping with
  | .strip => []
  | .clip => lines.ending
  | .keep => lines.ending ++ m.breaks

/-- Reads a block scalar behind its mark; `parent` is the column of what holds it. -/
def read? (style : ScalarStyle) (parent : Int) (cs : Chars) : Option (String × Chars) := do
  let header ← BlockHeader.read? cs
  let given := header.increment.map fun n => (max parent 0).toNat + n
  let first ← Margin.of? given header.rest
  let indent := given.getD (max first.widest (max (parent + 1).toNat 1))
  let (lines, last) ← linesFrom (style == .folded) indent first ⟨#[], [], false⟩
  return (String.ofList (lines.text.toList ++ tail header.chomping lines last), last.rest)

end BlockScalar

end AgentConvert.Yaml
