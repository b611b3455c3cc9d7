import AgentConvert.Pattern.Automaton
import AgentConvert.Pattern.Reader
import AgentConvert.Pattern.Resolve

/-!
# Checking patterns

Whether a text is a regular expression that can be used to match a whole text. Beyond its grammar,
it has to match whole characters only, ask for properties that there are, and stay small when its
repetitions are written out.
-/

namespace AgentConvert.Pattern

/-- Checks a pattern on its own. -/
def check (pattern : String) : Except Fault Unit := do
  let (e, _) ← (← read pattern).resolve .initial
  if e.isTooLarge then throw .tooLarge

/-- What is wrong with a pattern that is to match a whole text, if anything. -/
def fault? (pattern : String) : Option Fault :=
  match check ("^(?:" ++ pattern ++ ")$") with
  | .ok _ => none
  | .error fault => some fault

end AgentConvert.Pattern
