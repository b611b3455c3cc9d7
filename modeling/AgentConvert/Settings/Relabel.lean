import AgentConvert.Argument.Basic
import AgentConvert.Decoding.Record
import AgentConvert.Diagnostic
import AgentConvert.Pattern.Check
import AgentConvert.Text.Lowercase

/-!
# Relabel rules

Rules that change, keep or drop what is discovered or scraped, by its labels. A rule with an
unknown action, a pattern that is no regular expression, or a hash without a modulus is not
accepted (`RelabelRule.fault?`); it is left out and reported.
-/

namespace AgentConvert

/-- A relabel rule. -/
structure RelabelRule where
  sourceLabels : List String := []
  separator : Option String := none
  targetLabel : Option String := none
  regex : Option String := none
  modulus : Option UInt64 := none
  replacement : Option String := none
  action : Option String := none
  deriving DecidableEq, Inhabited

/-- Why a rule is not accepted. -/
inductive RelabelFault where
  | unknownAction (action : String)
  | badPattern (pattern : String) (fault : Pattern.Fault)
  | noModulus
  deriving DecidableEq

def RelabelFault.message : RelabelFault → String
  | unknownAction action => "unknown relabel action '" ++ action ++ "'"
  | badPattern pattern fault => "invalid relabel regex '" ++ pattern ++ "': " ++ fault.reason
  | noModulus => "relabel action 'hashmod' requires a non-zero modulus"

namespace RelabelRule

def record : Record RelabelRule where
  name := "RelabelConfig"
  initial := {}
  fields := [
    .of "source_labels" Decode.texts fun v s => { s with sourceLabels := v },
    .of "separator" (Decode.optional Decode.text) fun v s => { s with separator := v },
    .of "target_label" (Decode.optional Decode.text) fun v s => { s with targetLabel := v },
    .of "regex" (Decode.optional Decode.text) fun v s => { s with regex := v },
    .of "modulus" (Decode.optional Decode.uint64) fun v s => { s with modulus := v },
    .of "replacement" (Decode.optional Decode.text) fun v s => { s with replacement := v },
    .of "action" (Decode.optional Decode.text) fun v s => { s with action := v }]

/-- A list of rules. -/
def list : Decoder (List RelabelRule) := Decode.list record.decode

/-- The actions, in lower case. -/
def actions : List String := [
  "replace", "keep", "drop", "hashmod", "labelmap", "labeldrop", "labelkeep", "lowercase",
  "uppercase", "keepequal", "dropequal"]

/-- What is wrong with the action. -/
def actionFault? (r : RelabelRule) : Option RelabelFault :=
  (r.action.filter fun a => !actions.contains (Text.lowercase a)).map .unknownAction

/-- What is wrong with the pattern. -/
def patternFault? (r : RelabelRule) : Option RelabelFault :=
  r.regex.bind fun p => (Pattern.fault? p).map (.badPattern p)

/-- What is wrong with the modulus. -/
def modulusFault? (r : RelabelRule) : Option RelabelFault :=
  if r.action.map Text.lowercase = some "hashmod" ∧ r.modulus.getD 0 = 0 then some .noModulus
  else none

/-- Why the rule is not accepted: the first fault of action, pattern and modulus. -/
def fault? (r : RelabelRule) : Option RelabelFault :=
  r.actionFault?.or (r.patternFault?.or r.modulusFault?)

/-- The nested block of a rule. -/
def block (r : RelabelRule) : Argument :=
  .blockOf (Field.unlessNil "source_labels" .texts r.sourceLabels ++
    Field.optional "separator" .text r.separator ++
    Field.optional "regex" .regex r.regex ++
    Field.optional "modulus" .uint64 r.modulus ++
    Field.optional "target_label" .text r.targetLabel ++
    Field.optional "replacement" .text r.replacement ++
    Field.optional "action" .text (r.action.map Text.lowercase))

/-- The rule that sets a label. -/
def setLabel (label value : String) : RelabelRule :=
  { targetLabel := some label, replacement := some value }

/-- The rules that are accepted. -/
def accepted (rules : List RelabelRule) : List RelabelRule := rules.filter (·.fault?.isNone)

/-- A finding for each rule that is not accepted. -/
def rejections (context : String) (rules : List RelabelRule) : Diagnostics :=
  (rules.filterMap fault?).map fun fault =>
    .error ("dropped relabel rule in " ++ context ++ ": " ++ fault.message)

/-- The blocks of rules. -/
def blocks (rules : List RelabelRule) : Argument := .list (rules.map block)

end RelabelRule

end AgentConvert
