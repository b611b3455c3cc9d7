/-!
# Byte sizes

Amounts of bytes the way documents write them: in the largest unit of which the amount is a
multiple.
-/

namespace AgentConvert.ByteSize

/-- The units above the byte, the largest first. -/
def units : List (String × Nat) :=
  [("GiB", 1024 * 1024 * 1024), ("MiB", 1024 * 1024), ("KiB", 1024)]

/-- `1MiB`, `512KiB`, `1000B`. -/
def text (bytes : Nat) : String :=
  match units.find? fun u => u.2 ≤ bytes && bytes % u.2 == 0 with
  | some (unit, size) => toString (bytes / size) ++ unit
  | none => toString bytes ++ "B"

end AgentConvert.ByteSize
