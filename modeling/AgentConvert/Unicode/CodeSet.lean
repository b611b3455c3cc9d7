import AgentConvert.Number.Digits

/-!
# Sets of code points

A set of code points is kept as ranges in ascending order that neither overlap nor touch. Ranges
end in characters, so the complement of a range that ends before the surrogates starts behind them.
Main statements: a set made of ranges holds what the ranges hold (`contains_ofRanges`), and a union
what either part holds (`contains_union`).

Tables of the Unicode Character Database are kept as text, in one of two forms. A *list of gaps*
gives one set: in turn how many code points are passed over and how many follow that are members.
A *list of runs* gives a value to every code point: words of a value and a count, in the order of
code points, where a count of one is left out and the value `-` stands for none.
-/

namespace AgentConvert.Unicode

/-- The code points from `first` to `last`. -/
structure CodeRange where
  first : Nat
  last : Nat
  deriving DecidableEq

/-- Whether `n` lies in a range. -/
def CodeRange.contains (r : CodeRange) (n : Nat) : Bool := r.first ≤ n && n ≤ r.last

/-- The greatest code point. -/
def lastCode : Nat := 0x10ffff

/-- The code point of the character behind the one at `n`. -/
def nextCode (n : Nat) : Nat := if n == 0xd7ff then 0xe000 else n + 1

/-- The code point of the character before the one at `n`. -/
def previousCode (n : Nat) : Nat := if n == 0xe000 then 0xd7ff else n - 1

/-- A set of code points. -/
structure CodeSet where
  ranges : List CodeRange
  deriving DecidableEq, Inhabited

namespace CodeSet

/-- The set without members. -/
def empty : CodeSet := ⟨[]⟩

/-- All code points. -/
def all : CodeSet := ⟨[⟨0, lastCode⟩]⟩

/-- The code points from `first` to `last`. -/
def range (first last : Nat) : CodeSet := ⟨[⟨first, last⟩]⟩

/-- The set with one member. -/
def singleton (n : Nat) : CodeSet := range n n

/-- Whether a set has no members. -/
def isEmpty (s : CodeSet) : Bool := s.ranges.isEmpty

/-- Whether `n` is a member. -/
def contains (s : CodeSet) (n : Nat) : Bool := s.ranges.any (·.contains n)

/-- The greatest member. -/
def last? (s : CodeSet) : Option Nat := s.ranges.getLast?.map (·.last)

/-- The least member. -/
def first? (s : CodeSet) : Option Nat := s.ranges.head?.map (·.first)

/-- Whether all members are ASCII. -/
def isAscii (s : CodeSet) : Bool := s.last?.all (· < 0x80)

/-! ## Union -/

/-- Joins `r` and the ranges behind it where they overlap or touch. -/
def joinFrom (r : CodeRange) : List CodeRange → List CodeRange
  | [] => [r]
  | t :: rest =>
    if t.first ≤ r.last + 1 then joinFrom ⟨r.first, max r.last t.last⟩ rest
    else r :: joinFrom t rest

/-- Joins ranges in ascending order where they overlap or touch. -/
def join : List CodeRange → List CodeRange
  | [] => []
  | r :: rest => joinFrom r rest

/-- The set of what `ranges` hold. -/
def ofRanges (ranges : List CodeRange) : CodeSet :=
  ⟨join (ranges.mergeSort fun a b => a.first ≤ b.first)⟩

/-- The set of what pairs of a first and a last code point hold. -/
def ofPairs (pairs : List (Nat × Nat)) : CodeSet := ofRanges (pairs.map fun p => ⟨p.1, p.2⟩)

/-- The members of either set. -/
def union (s t : CodeSet) : CodeSet := ofRanges (s.ranges ++ t.ranges)

/-- The members of any of the sets. -/
def unions (sets : List CodeSet) : CodeSet := ofRanges (sets.flatMap ranges)

/-! ## Intersection, difference and complement -/

/-- What the ranges on both sides hold, when both sides are in ascending order. -/
def interRanges : List CodeRange → List CodeRange → List CodeRange
  | a :: as, b :: bs =>
    let rest := if a.last < b.last then interRanges as (b :: bs) else interRanges (a :: as) bs
    if max a.first b.first ≤ min a.last b.last then
      ⟨max a.first b.first, min a.last b.last⟩ :: rest
    else rest
  | _, _ => []
  termination_by as bs => as.length + bs.length

/-- The members of both sets. -/
def inter (s t : CodeSet) : CodeSet := ⟨interRanges s.ranges t.ranges⟩

/-- What the ranges on the left hold and those on the right do not, when both are in ascending
order. -/
def diffRanges : List CodeRange → List CodeRange → List CodeRange
  | [], _ => []
  | as, [] => as
  | a :: as, b :: bs =>
    if b.last < a.first then diffRanges (a :: as) bs
    else if a.last < b.first then a :: diffRanges as (b :: bs)
    else
      let before := if a.first < b.first then [⟨a.first, previousCode b.first⟩] else []
      before ++
        if b.last < a.last then diffRanges (⟨nextCode b.last, a.last⟩ :: as) bs
        else diffRanges as (b :: bs)
  termination_by as bs => as.length + bs.length

/-- The members of `s` that are not in `t`. -/
def diff (s t : CodeSet) : CodeSet := ⟨diffRanges s.ranges t.ranges⟩

/-- The members of one set alone. -/
def symmDiff (s t : CodeSet) : CodeSet := (s.union t).diff (s.inter t)

/-- What lies between a range that ends at `before` and one that starts at `after`. Ranges that
touch but for the surrogates between them have their own ends there. -/
def gap (before after : Nat) : CodeRange :=
  let a := nextCode before
  let b := previousCode after
  ⟨min a b, max a b⟩

/-- What lies between and behind ranges in ascending order, from the end of a range on. -/
def gapsFrom (before : Nat) : List CodeRange → List CodeRange
  | [] => if before < lastCode then [⟨nextCode before, lastCode⟩] else []
  | r :: rest => gap before r.first :: gapsFrom r.last rest

/-- The code points that are not members. -/
def compl (s : CodeSet) : CodeSet :=
  match s.ranges with
  | [] => all
  | r :: rest =>
    ⟨(if 0 < r.first then [⟨0, previousCode r.first⟩] else []) ++ gapsFrom r.last rest⟩

/-! ## Membership -/

theorem any_joinFrom (r : CodeRange) (l : List CodeRange) (n : Nat)
    (h : ∀ t ∈ l, r.first ≤ t.first) (hl : l.Pairwise fun a b => a.first ≤ b.first) :
    (joinFrom r l).any (·.contains n) = (r.contains n || l.any (·.contains n)) := by
  induction l generalizing r with
  | nil => simp [joinFrom]
  | cons t rest ih =>
    have hr := h t List.mem_cons_self
    obtain ⟨ht, hrest⟩ := List.pairwise_cons.1 hl
    rw [joinFrom]
    split
    · rename_i touch
      rw [ih ⟨r.first, max r.last t.last⟩ (fun u hu => h u (List.mem_cons_of_mem t hu)) hrest,
        List.any_cons, ← Bool.or_assoc]
      congr 1
      rw [Bool.eq_iff_iff]
      simp only [CodeRange.contains, Bool.or_eq_true, Bool.and_eq_true, decide_eq_true_eq]
      omega
    · rw [List.any_cons, ih t ht hrest, List.any_cons]

@[simp] theorem contains_ofRanges (ranges : List CodeRange) (n : Nat) :
    (ofRanges ranges).contains n = ranges.any (·.contains n) := by
  have hs := @List.pairwise_mergeSort CodeRange (fun a b => a.first ≤ b.first)
    (by simp only [decide_eq_true_eq]; omega)
    (by simp only [Bool.or_eq_true, decide_eq_true_eq]; omega) ranges
  have hp := List.mergeSort_perm ranges fun a b : CodeRange => a.first ≤ b.first
  rw [contains, ofRanges, ← hp.any_eq]
  generalize ranges.mergeSort (fun a b : CodeRange => a.first ≤ b.first) = l at hs
  cases l with
  | nil => rfl
  | cons r rest =>
    simp only [decide_eq_true_eq] at hs
    obtain ⟨hr, hrest⟩ := List.pairwise_cons.1 hs
    rw [join, any_joinFrom r rest n hr hrest, List.any_cons]

@[simp] theorem contains_union (s t : CodeSet) (n : Nat) :
    (s.union t).contains n = (s.contains n || t.contains n) := by
  rw [union, contains_ofRanges, List.any_append, contains, contains]

end CodeSet

/-! ## Tables -/

/-- The words of `cs`, which blanks and line ends separate. -/
def words (cs : List Char) : List (List Char) :=
  let (word, rest) := cs.foldr
    (fun c (word, rest) =>
      if c == ' ' || c == '\n' then ([], if word.isEmpty then rest else word :: rest)
      else (c :: word, rest))
    ([], [])
  if word.isEmpty then rest else word :: rest

/-! ## Gaps -/

/-- The ranges of a list of gaps, from the code point `start` on. -/
def rangesOfGaps (start : Nat) : List Nat → List CodeRange
  | gap :: count :: rest =>
    ⟨start + gap, start + gap + count - 1⟩ :: rangesOfGaps (start + gap + count) rest
  | _ => []

/-- The set that a list of gaps gives. -/
def CodeSet.ofGaps (table : String) : CodeSet :=
  ⟨rangesOfGaps 0 ((words table.toList).map natOfDigits)⟩

/-! ## Runs -/

/-- Code points in a row that share a value. -/
structure Run where
  value : String
  range : CodeRange

/-- The runs that words describe, from the code point `start` on. -/
def runsOfWords (start : Nat) : List (List Char) → List Run
  | [] => []
  | word :: rest =>
    let digits := word.dropWhile (!·.isDigit)
    let count := if digits.isEmpty then 1 else natOfDigits digits
    ⟨String.ofList (word.takeWhile (!·.isDigit)), ⟨start, start + count - 1⟩⟩ ::
      runsOfWords (start + count) rest

/-- The code points to which a list of runs gives a value that satisfies `p`. -/
def codesWith (table : String) (p : String → Bool) : CodeSet :=
  .ofRanges (((runsOfWords 0 (words table.toList)).filter fun r => p r.value).map (·.range))

end AgentConvert.Unicode
