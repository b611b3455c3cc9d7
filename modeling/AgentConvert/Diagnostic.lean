import AgentConvert.Text.Blank

/-!
# Findings

What a conversion has to say about its input. A finding is one line: a message with line breaks is
folded into one when it is recorded (`Diagnostic.of`). Findings are kept in the order in which they
were made.

A report is the findings of a conversion as a text for readers: how many there are, then those of
each severity, errors first.
-/

namespace AgentConvert

/-- How grave a finding is. -/
inductive Severity where
  | info
  | warning
  | error
  deriving DecidableEq, Inhabited

namespace Severity

/-- The severities from the least grave on. -/
def all : List Severity := [info, warning, error]

def name : Severity → String
  | info => "Info"
  | warning => "Warning"
  | error => "Error"

end Severity

/-- A finding. -/
structure Diagnostic where
  severity : Severity
  message : String
  deriving DecidableEq, Inhabited

/-- Findings in the order in which they were made. -/
abbrev Diagnostics := List Diagnostic

/-- `message` on one line: when it holds a line feed, its lines are trimmed, the empty ones left
out, and the rest joined by blanks. -/
def oneLine (message : String) : String :=
  if message.toList.contains '\n' then
    " ".intercalate (((Text.lines message).map Text.trim).filter (· ≠ ""))
  else message

namespace Diagnostic

/-- A finding with the message on one line. -/
def of (severity : Severity) (message : String) : Diagnostic := ⟨severity, oneLine message⟩

def info (message : String) : Diagnostic := of .info message
def warning (message : String) : Diagnostic := of .warning message
def error (message : String) : Diagnostic := of .error message

/-- `(Warning) message`. -/
def shown (d : Diagnostic) : String := "(" ++ d.severity.name ++ ") " ++ d.message

end Diagnostic

namespace Diagnostics

/-- The findings of one severity. -/
def only (severity : Severity) (ds : Diagnostics) : Diagnostics :=
  ds.filter (·.severity == severity)

/-- How many findings have this severity. -/
def count (severity : Severity) (ds : Diagnostics) : Nat := (only severity ds).length

/-- Whether some finding is an error. -/
def hasErrors (ds : Diagnostics) : Bool := ds.any (·.severity == .error)

/-- The gravest severity among the findings. -/
def gravest? (ds : Diagnostics) : Option Severity :=
  Severity.all.reverse.find? fun s => ds.any (·.severity == s)

/-- The findings, one per line. -/
def shown (ds : Diagnostics) : String := String.join (ds.map fun d => d.shown ++ "\n")

end Diagnostics

/-- The findings for which a condition holds. -/
def Diagnostic.when (condition : Bool) (d : Diagnostic) : Diagnostics :=
  if condition then [d] else []

end AgentConvert

/-! ## Reports -/

namespace AgentConvert.Report

/-- `1 error`, `2 errors`. -/
def counted (n : Nat) (noun : String) : String :=
  toString n ++ " " ++ noun ++ if n == 1 then "" else "s"

/-- The line that counts the findings. -/
def header (ds : Diagnostics) : String :=
  "Conversion report: " ++ counted (ds.count .error) "error" ++ ", " ++
    counted (ds.count .warning) "warning" ++ ", " ++ toString (ds.count .info) ++ " info"

/-- The title over the findings of a severity. -/
def title : Severity → String
  | .error => "Errors"
  | .warning => "Warnings"
  | .info => "Info"

/-- The lines for one severity: none when it does not occur. -/
def sectionLines (ds : Diagnostics) (severity : Severity) : List String :=
  match ds.only severity with
  | [] => []
  | found => "" :: (title severity ++ ":") :: found.map fun d => "  " ++ d.shown

/-- The lines of a report. -/
def lines (ds : Diagnostics) : List String :=
  header ds :: [Severity.error, .warning, .info].flatMap (sectionLines ds)

/-- The report on `ds`. -/
def render (ds : Diagnostics) : String := String.join ((lines ds).map (· ++ "\n"))

end AgentConvert.Report
