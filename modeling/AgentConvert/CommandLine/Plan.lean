import AgentConvert.CommandLine.Options
import AgentConvert.Diagnostic
import AgentConvert.Loading

/-!
# Plans of a run

What a run does once its configuration has been read: what it says, writes and prints, in order, and
its exit code. Findings go to the error channel, a line for each, or all of them as one JSON list.
With an error among the findings no document is delivered, unless that is asked for; the report is
written in any case. A file that cannot be written ends the run.
-/

namespace AgentConvert

/-! ## JSON -/

namespace JsonText

/-- A digit below sixteen. -/
def hexDigit (n : Nat) : Char := if n < 10 then Char.ofNat (48 + n) else Char.ofNat (87 + n)

/-- How a character is spelled in a JSON string. -/
def escape (c : Char) : List Char :=
  if c == '"' || c == '\\' then ['\\', c]
  else if c == '\n' then ['\\', 'n']
  else if c == '\r' then ['\\', 'r']
  else if c == '\t' then ['\\', 't']
  else if c == '\x08' then ['\\', 'b']
  else if c == '\x0c' then ['\\', 'f']
  else if c.toNat < 0x20 then
    ['\\', 'u', '0', '0', hexDigit (c.toNat / 16), hexDigit (c.toNat % 16)]
  else [c]

/-- The spelling of a JSON string. -/
def string (s : String) : String := String.ofList ('"' :: s.toList.flatMap escape ++ ['"'])

end JsonText

namespace Diagnostics

/-- A finding as an item of a JSON list. -/
def jsonItem (d : Diagnostic) : String :=
  "  \x7b\n    \"severity\": " ++ JsonText.string d.severity.name ++
    ",\n    \"message\": " ++ JsonText.string d.message ++ "\n  \x7d"

/-- Findings as a JSON list. -/
def json (ds : Diagnostics) : String :=
  if ds.isEmpty then "[]" else "[\n" ++ ",\n".intercalate (ds.map jsonItem) ++ "\n]"

end Diagnostics

namespace CommandLine

/-- The findings that a run shows: as lines, only errors if it is quiet; as JSON, always all. -/
def shownFindings (format : FindingsFormat) (isQuiet : Bool) (ds : Diagnostics) : Diagnostics :=
  match format with
  | .json => ds
  | .text => if isQuiet then ds.only .error else ds

/-- What a run says about findings. -/
def findingsText (format : FindingsFormat) (isQuiet : Bool) (ds : Diagnostics) : String :=
  let ds := shownFindings format isQuiet ds
  match format with
  | .json => ds.json ++ "\n"
  | .text => ds.shown

end CommandLine

end AgentConvert

/-! ## Plans -/

namespace AgentConvert.CommandLine

/-- A step of a run. -/
inductive Action where
  /-- Says something on the error channel. -/
  | say (text : String)
  /-- Puts a document on the output channel. -/
  | print (document : ByteArray)
  /-- Writes a file; `complaint` says what failed if it cannot be written. -/
  | write (path : String) (content : ByteArray) (complaint : String)

/-- The steps of a run, and its exit code if none of them fails. -/
structure Plan where
  actions : List Action
  exitCode : Nat := 0

namespace Plan

/-- Complains and fails. -/
def failing (complaint : String) : Plan := ⟨[.say ("error: " ++ complaint ++ "\n")], 1⟩

/-- The plan for arguments that are wrong. -/
def ofUsageFault (fault : UsageFault) : Plan := ⟨[.say fault.message], 2⟩

/-- The version of the program. -/
def version : Plan := ⟨[.print (UsageFault.program ++ " 0.1.0\n").toUTF8], 0⟩

/-- A line on an option. -/
def helpLine (n : Name) : String :=
  (n.short?.map fun c => "  -" ++ c.toString ++ ", ").getD "      " ++ n.shown ++ "\n"

/-- The help on the program. -/
def help : Plan :=
  ⟨[.print ("Convert static, promtail and otelcol configuration into telescope pipelines\n\n" ++
    UsageFault.usage ++ "\n\nArguments:\n  <FILE>\n\nOptions:\n" ++
    String.join (Name.all.map helpLine)).toUTF8], 0⟩

/-- The plan for a configuration that could not be read. -/
def unreadable (o : Options) (reason : String) : Plan :=
  failing ("failed to read " ++ o.file ++ ": " ++ reason)

/-- The plan for bytes that are no configuration. -/
def ofLoadFault (o : Options) (fault : LoadFault) : Plan :=
  failing (o.file ++ ": " ++ fault.message)

/-- Writes the report, if one is asked for. -/
def reportActions (o : Options) (c : Conversion) : List Action :=
  (o.report.map fun path =>
    Action.write path (Report.render c.findings).toUTF8 ("failed to write report " ++ path)).toList

/-- Whether the document is kept back. -/
def isBlocked (o : Options) (c : Conversion) : Bool := c.hasErrors && !o.bypassErrors

/-- What is said when the document is kept back. -/
def blockedMessage (c : Conversion) : String :=
  "error: conversion reported " ++ toString (c.findings.count .error) ++
    " error(s); rerun with --bypass-errors to write the output anyway\n"

/-- Delivers the document, or says why it is kept back. -/
def delivery (o : Options) (c : Conversion) : Action :=
  if isBlocked o c then .say (blockedMessage c)
  else match o.output with
    | some path => .write path c.document "failed to write output"
    | none => .print c.document

/-- The plan for a conversion. -/
def ofConversion (o : Options) (c : Conversion) : Plan :=
  ⟨.say (findingsText o.findings o.isQuiet c.findings) :: reportActions o c ++ [delivery o c],
    if isBlocked o c then 1 else 0⟩

/-- The plan for the bytes of a configuration in an environment. -/
def ofBytes (lookup : String → Option String) (o : Options) (bytes : ByteArray) : Plan :=
  let lookup? := if o.expandsEnvironment then some lookup else none
  match Conversion.ofBytes .builtin o.format lookup? bytes with
  | .ok c => ofConversion o c
  | .error fault => ofLoadFault o fault

end Plan

end AgentConvert.CommandLine
