import AgentConvert.Conversion
import AgentConvert.Environment
import AgentConvert.Yaml.Reader

/-!
# Loading

Configurations from bytes: the bytes encode a text, references to the environment are expanded in
it if that is asked for, and the text is decoded. A text without content is the configuration that
says nothing.
-/

namespace AgentConvert

/-- Why bytes are not a configuration. -/
inductive LoadFault where
  | encoding (fault : Text.Utf8.Fault)
  /-- The text is not well-formed. -/
  | malformed (format : SourceFormat)
  | undecodable (format : SourceFormat) (error : DecodeError)

namespace LoadFault

/-- What is said about a text that is not a configuration. -/
def parseMessage (format : SourceFormat) (reason : String) : String :=
  "failed to parse " ++ format.name ++ " configuration: " ++ reason

def message : LoadFault → String
  | encoding fault => "configuration is not valid UTF-8: " ++ fault.message
  | malformed format => parseMessage format "the text is not well-formed"
  | undecodable format e => parseMessage format (e.message false)

end LoadFault

namespace SourceConfig

/-- How deep lists and maps of a text may be nested. -/
def depthLimit : Nat := 128

/-- Whether a line has no content. -/
def isBlankLine (line : String) : Bool :=
  let line := Text.trim line
  line == "" || line.startsWith "#" || line == "---"

/-- The configuration that a text spells. -/
def ofText (format : SourceFormat) (text : String) : Except LoadFault SourceConfig :=
  if (Text.lines text).all isBlankLine then .ok (blank format)
  else match Yaml.Document.read? text with
    | none => .error (.malformed format)
    | some d =>
      (Decode.runAt ⟨.sections, depthLimit, d.anchors⟩ (decoder format) d.value).mapError
        (.undecodable format)

/-- The configuration that bytes encode; `lookup?`, if it is given, is the environment that
references are expanded in. -/
def load (format : SourceFormat) (lookup? : Option (String → Option String))
    (bytes : ByteArray) : Except LoadFault SourceConfig := do
  let text ← (Text.Utf8.decode bytes).mapError .encoding
  ofText format (match lookup? with
    | some lookup => Environment.expand lookup text
    | none => text)

end SourceConfig

/-- Loads and converts a configuration. Only loading can fail. -/
def Conversion.ofBytes (registry : Collector.Registry) (format : SourceFormat)
    (lookup? : Option (String → Option String)) (bytes : ByteArray) :
    Except LoadFault Conversion :=
  (SourceConfig.load format lookup? bytes).map (·.convert registry)

end AgentConvert
