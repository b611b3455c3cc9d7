import AgentConvert.Diagnostic
import AgentConvert.Document.Canonical
import AgentConvert.Document.Parser
import AgentConvert.Text.Utf8

/-!
# Formatting

The canonical layout of a document given as bytes. The result is read again and compared before it
replaces the input; bytes that cannot be formatted stay as they are and are reported once.
-/

namespace AgentConvert.Format

/-- Why bytes cannot be formatted. -/
inductive Fault where
  | encoding (fault : Text.Utf8.Fault)
  | unreadable (error : SyntaxError)
  | unreadableResult (error : SyntaxError)
  | changed

def Fault.message : Fault → String
  | encoding fault => "invalid UTF-8: " ++ fault.message
  | unreadable e => e.message
  | unreadableResult e => "printed output does not parse: " ++ e.message
  | changed => "printed output does not round-trip"

/-- The canonical layout of the document that `text` spells. -/
def formatText (text : String) : Except Fault String := do
  let body ← (parseDocument text).mapError .unreadable
  let result := body.canonical
  let again ← (parseDocument result).mapError .unreadableResult
  if again = body then .ok result else .error .changed

/-- The canonical layout of the document that `bytes` encode. -/
def format (bytes : ByteArray) : Except Fault String := do
  formatText (← (Text.Utf8.decode bytes).mapError .encoding)

/-- The formatted bytes, or the bytes as they are and the reason. -/
def formatBytes (bytes : ByteArray) : ByteArray × Diagnostics :=
  if bytes.size == 0 then (bytes, [])
  else match format bytes with
    | .ok result => (result.toUTF8, [])
    | .error fault =>
      (bytes, [.error ("failed to format the output document: " ++ fault.message)])

end AgentConvert.Format
