import AgentConvert.Document.Identifier

/-!
# Labels

The labels of blocks, handed out so that no two in one scope are the same. The first request for a
base gets the base itself; a later one gets the base with a number behind it, the least from the
base's last number on that is free.
-/

namespace AgentConvert

/-- The label that `parts` make: the parts that are not empty, joined by underscores. -/
def labelOfParts (parts : List String) : String :=
  sanitize ("_".intercalate (parts.filter (· ≠ "")))

/-- The labels handed out, as pairs of a scope and a label, and for each base that had to be
numbered the next number to try. -/
structure Labels where
  taken : List (String × String)
  next : List ((String × String) × Nat)
  deriving Inhabited

namespace Labels

/-- No labels. -/
def empty : Labels := ⟨[], []⟩

/-- Whether `label` was handed out in `scope`. -/
def isTaken (ls : Labels) (scope label : String) : Bool := ls.taken.contains (scope, label)

/-- The next number to try for a base. -/
def nextNumber (ls : Labels) (scope base : String) : Nat :=
  ((ls.next.find? fun e => e.1 == (scope, base)).map Prod.snd).getD 2

/-- The base with a number behind it. -/
def numbered (base : String) (n : Nat) : String := base ++ toString n

/-- The first of the numbers from `n` on whose label is free in `scope`. Among more labels than
were handed out one is free. -/
def freeNumber (ls : Labels) (scope base : String) (n : Nat) : Nat :=
  ((List.range (ls.taken.length + 1)).map (n + ·)).find?
    (fun k => !ls.isTaken scope (numbered base k)) |>.getD n

/-- Hands out a label in `scope` for `base`. -/
def assign (ls : Labels) (scope base : String) : String × Labels :=
  let base := sanitize base
  if ls.isTaken scope base then
    let n := ls.freeNumber scope base (ls.nextNumber scope base)
    let label := numbered base n
    (label, ⟨(scope, label) :: ls.taken,
      ((scope, base), n + 1) :: ls.next.filter fun e => e.1 != (scope, base)⟩)
  else (base, { ls with taken := (scope, base) :: ls.taken })

end Labels

/-- Work that hands out labels. -/
abbrev Labelling := StateM Labels

/-- Hands out a label in `scope` for `base`. -/
def Labelling.fresh (scope base : String) : Labelling String := fun ls => ls.assign scope base

end AgentConvert
