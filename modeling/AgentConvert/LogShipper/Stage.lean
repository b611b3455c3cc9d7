import AgentConvert.Argument.Basic
import AgentConvert.Decoding.Record
import AgentConvert.Diagnostic

/-!
# Pipeline stages

What is done to the entries of a job on their way. A stage is a map with one key, its name, and the
value at the key is its body. A stage that is not supported, not known or not well formed is left
out and reported (`StageFault`).
-/

namespace AgentConvert.LogShipper

/-- Takes values out of structured text. -/
structure JsonStage where
  expressions : Dictionary (Option String) := .empty
  source : Option String := none
  dropMalformed : Option Bool := none
  deriving Inhabited

def JsonStage.record : Record JsonStage where
  name := "JsonStage"
  initial := {}
  fields := [
    .of "expressions" (Decode.dictionary (Decode.optional Decode.text)) fun v s =>
      { s with expressions := v },
    .of "source" (Decode.optional Decode.text) fun v s => { s with source := v },
    .of "drop_malformed" (Decode.optional Decode.bool) fun v s => { s with dropMalformed := v }]

/-- Takes values out of text by a pattern. -/
structure RegexStage where
  expression : String := ""
  source : Option String := none
  deriving Inhabited

def RegexStage.record : Record RegexStage where
  name := "RegexStage"
  initial := {}
  fields := [
    .of "expression" Decode.text fun v s => { s with expression := v },
    .of "source" (Decode.optional Decode.text) fun v s => { s with source := v }]
  required := ["expression"]

/-- Sets the time of an entry. -/
structure TimestampStage where
  source : String := ""
  format : String := ""
  fallbackFormats : List String := []
  location : Option String := none
  actionOnFailure : Option String := none
  deriving Inhabited

def TimestampStage.record : Record TimestampStage where
  name := "TimestampStage"
  initial := {}
  fields := [
    .of "source" Decode.text fun v s => { s with source := v },
    .of "format" Decode.text fun v s => { s with format := v },
    .of "fallback_formats" Decode.texts fun v s => { s with fallbackFormats := v },
    .of "location" (Decode.optional Decode.text) fun v s => { s with location := v },
    .of "action_on_failure" (Decode.optional Decode.text) fun v s =>
      { s with actionOnFailure := v }]
  required := ["source", "format"]

/-- Sets the line of an entry. -/
structure OutputStage where
  source : String := ""
  deriving Inhabited

def OutputStage.record : Record OutputStage where
  name := "OutputStage"
  initial := {}
  fields := [.of "source" Decode.text fun v s => { s with source := v }]
  required := ["source"]

/-- Changes a value by a template. -/
structure TemplateStage where
  source : String := ""
  template : String := ""
  deriving Inhabited

def TemplateStage.record : Record TemplateStage where
  name := "TemplateStage"
  initial := {}
  fields := [
    .of "source" Decode.text fun v s => { s with source := v },
    .of "template" Decode.text fun v s => { s with template := v }]
  required := ["source", "template"]

/-- Sets the tenant of an entry. -/
structure TenantStage where
  label : Option String := none
  source : Option String := none
  value : Option String := none
  deriving Inhabited

def TenantStage.record : Record TenantStage where
  name := "TenantStage"
  initial := {}
  fields := [
    .of "label" (Decode.optional Decode.text) fun v s => { s with label := v },
    .of "source" (Decode.optional Decode.text) fun v s => { s with source := v },
    .of "value" (Decode.optional Decode.text) fun v s => { s with value := v }]

/-- Drops entries. -/
structure DropStage where
  source : Option String := none
  expression : Option String := none
  value : Option String := none
  olderThan : Option Duration := none
  longerThan : Option String := none
  dropCounterReason : Option String := none
  deriving Inhabited

def DropStage.record : Record DropStage where
  name := "DropStage"
  initial := {}
  fields := [
    .of "source" (Decode.optional Decode.text) fun v s => { s with source := v },
    .of "expression" (Decode.optional Decode.text) fun v s => { s with expression := v },
    .of "value" (Decode.optional Decode.text) fun v s => { s with value := v },
    .of "older_than" (Decode.optional Decode.duration) fun v s => { s with olderThan := v },
    .of "longer_than" (Decode.optional Decode.text) fun v s => { s with longerThan := v },
    .of "drop_counter_reason" (Decode.optional Decode.text) fun v s =>
      { s with dropCounterReason := v }]

/-! ## Stages -/

/-- A stage. -/
inductive Stage where
  | json (s : JsonStage)
  | regex (s : RegexStage)
  | labels (values : Dictionary String)
  | staticLabels (values : Dictionary String)
  | timestamp (s : TimestampStage)
  | output (s : OutputStage)
  | template (s : TemplateStage)
  | labelDrop (names : List String)
  | labelKeep (names : List String)
  | tenant (s : TenantStage)
  | docker
  | cri
  | drop (s : DropStage)

namespace Stage

/-- The name of the stage's block. -/
def name : Stage → String
  | json _ => "stage.json"
  | regex _ => "stage.regex"
  | labels _ => "stage.labels"
  | staticLabels _ => "stage.static_labels"
  | timestamp _ => "stage.timestamp"
  | output _ => "stage.output"
  | template _ => "stage.template"
  | labelDrop _ => "stage.label_drop"
  | labelKeep _ => "stage.label_keep"
  | tenant _ => "stage.tenant"
  | docker => "stage.docker"
  | cri => "stage.cri"
  | drop _ => "stage.drop"

/-- The fields of the stage's block. -/
def fields : Stage → Fields
  | json s =>
    Field.always "expressions" (.labels (s.expressions.map fun e => e.getD "")) ++
    Field.optional "source" .text s.source ++
    Field.optional "drop_malformed" .bool s.dropMalformed
  | regex s =>
    Field.always "expression" (.text s.expression) ++ Field.optional "source" .text s.source
  | labels values => Field.always "values" (.labels values)
  | staticLabels values => Field.always "values" (.labels values)
  | timestamp s =>
    Field.always "source" (.text s.source) ++ Field.always "format" (.text s.format) ++
    Field.unlessNil "fallback_formats" .texts s.fallbackFormats ++
    Field.optional "location" .text s.location ++
    Field.optional "action_on_failure" .text s.actionOnFailure
  | output s => Field.always "source" (.text s.source)
  | template s =>
    Field.always "source" (.text s.source) ++ Field.always "template" (.text s.template)
  | labelDrop names => Field.always "values" (.texts names)
  | labelKeep names => Field.always "values" (.texts names)
  | tenant s =>
    Field.optional "label" .text s.label ++ Field.optional "source" .text s.source ++
    Field.optional "value" .text s.value
  | docker => []
  | cri => []
  | drop s =>
    Field.optional "source" .text s.source ++ Field.optional "expression" .text s.expression ++
    Field.optional "value" .text s.value ++ Field.optional "older_than" .duration s.olderThan ++
    Field.optional "longer_than" .text s.longerThan ++
    Field.optional "drop_counter_reason" .text s.dropCounterReason

/-- The stage's block. -/
def block (s : Stage) : Argument := .variant s.name (.blockOf s.fields)

end Stage

/-! ## Reading stages -/

/-- Why a stage is left out. -/
inductive StageFault where
  | notSingleKey
  | nameNotText
  | unsupported (name : String)
  | unknown (name : String)
  | badBody (name : String) (error : DecodeError)

def StageFault.message : StageFault → String
  | notSingleKey => "each pipeline stage must be a map with a single key"
  | nameNotText => "pipeline stage names must be strings"
  | unsupported name => "unsupported pipeline stage '" ++ name ++ "' was not converted"
  | unknown name => "unknown pipeline stage '" ++ name ++ "'"
  | badBody name error => "invalid '" ++ name ++ "' stage: " ++ error.message false

namespace Stage

/-- The stages that documents have no place for. -/
def unsupportedNames : List String :=
  ["metrics", "match", "multiline", "pack", "limit", "sampling"]

/-- The decoder for the body of the stage with the given name. -/
def decoder? (name : String) : Option (Decoder Stage) :=
  match name with
  | "json" => some fun v => json <$> JsonStage.record.decode v
  | "regex" => some fun v => regex <$> RegexStage.record.decode v
  | "labels" => some fun v => do
    return labels ((← Decode.dictionary (Decode.optional Decode.text) v).map fun l => l.getD "")
  | "static_labels" => some fun v => staticLabels <$> Decode.labels v
  | "timestamp" => some fun v => timestamp <$> TimestampStage.record.decode v
  | "output" => some fun v => output <$> OutputStage.record.decode v
  | "template" => some fun v => template <$> TemplateStage.record.decode v
  | "labeldrop" => some fun v => labelDrop <$> Decode.texts v
  | "labelallow" => some fun v => labelKeep <$> Decode.texts v
  | "tenant" => some fun v => tenant <$> TenantStage.record.decode v
  | "docker" => some fun _ => return docker
  | "cri" => some fun _ => return cri
  | "drop" => some fun v => drop <$> DropStage.record.decode v
  | _ => none

/-- The stage with the given name and body. -/
def ofBody (name : String) (body : Value) : Except StageFault Stage :=
  match decoder? name with
  | some d => (Decode.run .sections d body).mapError (.badBody name)
  | none =>
    .error (if unsupportedNames.contains name then .unsupported name else .unknown name)

/-- The stage that a value is. -/
def ofValue (v : Value) : Except StageFault Stage :=
  match v.untagged with
  | .map [(key, body)] =>
    match key.untagged with
    | .text name => ofBody name body
    | _ => .error .nameNotText
  | _ => .error .notSingleKey

/-- The stages among values. -/
def accepted (vs : List Value) : List Stage := vs.filterMap fun v => (ofValue v).toOption

/-- A finding for each value that is left out. -/
def rejections (context : String) (vs : List Value) : Diagnostics :=
  vs.filterMap fun v =>
    match ofValue v with
    | .ok _ => none
    | .error fault => some (.error (fault.message ++ " in " ++ context))

end Stage

end AgentConvert.LogShipper
