/-!
# Blanks and lines

The characters with the property White_Space, as a table of ranges (`inRanges`), and texts without
the blanks at their ends.

A text is cut into lines at its line feeds. A line does not hold its line feed, nor a carriage
return right before it, and a text that ends in a line feed has no empty line after it.
-/

namespace AgentConvert.Text

/-! ## Blanks -/

/-- Whether `n` lies in one of `ranges`, each given by its first and its last member. -/
def inRanges (ranges : List (Nat × Nat)) (n : Nat) : Bool :=
  ranges.any fun r => r.1 ≤ n && n ≤ r.2

/-- The code points with the property White_Space. -/
def blankRanges : List (Nat × Nat) := [
  (0x9, 0xd), (0x20, 0x20), (0x85, 0x85), (0xa0, 0xa0), (0x1680, 0x1680), (0x2000, 0x200a),
  (0x2028, 0x2029), (0x202f, 0x202f), (0x205f, 0x205f), (0x3000, 0x3000)]

/-- Whether `c` is blank: a space, a line break, or any other white space. -/
def isBlank (c : Char) : Bool := inRanges blankRanges c.toNat

theorem length_dropWhile_le {α : Type} (p : α → Bool) (l : List α) :
    (l.dropWhile p).length ≤ l.length :=
  (List.dropWhile_sublist p).length_le

/-- `cs` without the characters at its end that satisfy `p`. -/
def dropEndWhile (p : Char → Bool) (cs : List Char) : List Char :=
  (cs.reverse.dropWhile p).reverse

theorem dropEndWhile_append_replicate (c : Char) (cs : List Char) :
    ∃ n, dropEndWhile (· == c) cs ++ List.replicate n c = cs := by
  have hall : ∀ d ∈ cs.reverse.takeWhile (· == c), d = c := fun d hd =>
    eq_of_beq (List.all_eq_true.1 (List.all_takeWhile ..) d hd)
  refine ⟨(cs.reverse.takeWhile (· == c)).length, ?_⟩
  rw [dropEndWhile, ← List.reverse_replicate, ← List.eq_replicate_of_mem hall,
    ← List.reverse_append, List.takeWhile_append_dropWhile, List.reverse_reverse]

theorem getLast?_dropEndWhile (p : Char → Bool) (cs : List Char) :
    ∀ c ∈ (dropEndWhile p cs).getLast?, p c = false := by
  intro c hc
  rw [dropEndWhile, List.getLast?_reverse] at hc
  simpa [Option.mem_def.1 hc] using List.head?_dropWhile_not p cs.reverse

/-- `cs` without the blanks at both ends. -/
def trimChars (cs : List Char) : List Char :=
  dropEndWhile isBlank (cs.dropWhile isBlank)

/-- `s` without the blanks at both ends. -/
def trim (s : String) : String := String.ofList (trimChars s.toList)

/-! ## Lines -/

/-- The pieces of `cs` between its line feeds, the last one included. -/
def splitLines : List Char → List (List Char)
  | [] => [[]]
  | c :: rest =>
    if c == '\n' then [] :: splitLines rest
    else match splitLines rest with
      | [] => [[c]]
      | line :: lines => (c :: line) :: lines

/-- `line` without one carriage return at its end. -/
def dropCarriageReturn (line : List Char) : List Char :=
  if line.getLast? == some '\r' then line.dropLast else line

/-- The lines of `cs`; a carriage return counts as part of a line break only before a line
feed. -/
def linesOfChars (cs : List Char) : List (List Char) :=
  let pieces := splitLines cs
  let ended := pieces.dropLast.map dropCarriageReturn
  match pieces.getLast? with
  | some (c :: last) => ended ++ [c :: last]
  | _ => ended

/-- The lines of `s`. -/
def lines (s : String) : List String := (linesOfChars s.toList).map String.ofList

end AgentConvert.Text
