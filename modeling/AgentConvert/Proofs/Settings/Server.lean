import AgentConvert.LogShipper.Job
import AgentConvert.Proofs.Argument.Attributes
import AgentConvert.Proofs.Argument.Nested
import AgentConvert.Proofs.Draft
import AgentConvert.Proofs.Findings.Recorded
import AgentConvert.Proofs.Formatted.Result
import AgentConvert.Proofs.Settings.Fields

/-!
# What becomes of the settings of a server

A server is used in two ways: it is the agent's own one, or a source embeds it to be pushed to
(`ServerSettings.Use`). In either use some settings have a place in the document, which has their
value (`Use.valueIn_places`), some are reported (`Use.exists_isNamed`), and the others are lost
(`Use.output_reset`, `Use.findings_reset`).

So a setting of a server that is not lost shows in the document or is named in a finding, and no
conversion depends on one that is lost (`SourceConfig.serverSettings_accounted`). Settings are lost
in both uses of a server.
-/

namespace AgentConvert

/-- The value of an attribute of the body, or of its only block with the given name. -/
def Body.valueIn (body : Body) (block? : Option String) (name : String) : Option Expr :=
  match block? with
  | none => body.attribute? name
  | some path =>
    match (Body.blocks body).filter (·.name = [path]) with
    | [b] => b.attribute? name
    | _ => none

namespace ServerSettings

open Argument

/-! ## Settings -/

/-- The settings of a server. -/
inductive Setting where
  | logLevel
  | logFormat
  | httpListenAddress
  | httpListenPort
  | grpcListenAddress
  | grpcListenPort
  | httpTls
  | grpcTls
  | httpReadTimeout
  | httpWriteTimeout
  | httpIdleTimeout
  | grpcMaxRecvMsgSize
  | grpcMaxSendMsgSize
  | grpcMaxConcurrentStreams
  | gracefulShutdownTimeout
  | registerInstrumentation
  deriving DecidableEq

namespace Setting

/-- The settings in the order in which they are decoded. -/
def all : List Setting := [
  logLevel, logFormat, httpListenAddress, httpListenPort, grpcListenAddress, grpcListenPort,
  httpTls, grpcTls, httpReadTimeout, httpWriteTimeout, httpIdleTimeout, grpcMaxRecvMsgSize,
  grpcMaxSendMsgSize, grpcMaxConcurrentStreams, gracefulShutdownTimeout, registerInstrumentation]

/-- The key of the setting. -/
def name : Setting → String
  | logLevel => "log_level"
  | logFormat => "log_format"
  | httpListenAddress => "http_listen_address"
  | httpListenPort => "http_listen_port"
  | grpcListenAddress => "grpc_listen_address"
  | grpcListenPort => "grpc_listen_port"
  | httpTls => "http_tls_config"
  | grpcTls => "grpc_tls_config"
  | httpReadTimeout => "http_server_read_timeout"
  | httpWriteTimeout => "http_server_write_timeout"
  | httpIdleTimeout => "http_server_idle_timeout"
  | grpcMaxRecvMsgSize => "grpc_server_max_recv_msg_size"
  | grpcMaxSendMsgSize => "grpc_server_max_send_msg_size"
  | grpcMaxConcurrentStreams => "grpc_server_max_concurrent_streams"
  | gracefulShutdownTimeout => "graceful_shutdown_timeout"
  | registerInstrumentation => "register_instrumentation"

/-- Whether the message of a finding names the setting. -/
def IsNamed (setting : Setting) (d : Diagnostic) : Prop :=
  ("server." ++ setting.name).toList <:+: d.message.toList

theorem mem_all (setting : Setting) : setting ∈ all := by
  cases setting <;> decide

theorem lineFeed_not_mem_name (setting : Setting) : '\n' ∉ setting.name.toList := by
  cases setting <;> decide

/-- There is a setting for each field that is decoded. -/
theorem map_name_all : all.map name = record.fields.map Field.key := rfl

end Setting

/-- Whether a setting has another value than the usual one; levels are compared in lower case. -/
def isSet (s : ServerSettings) : Setting → Bool
  | .logLevel => s.logLevel.any fun level => Text.lowercase level != "info"
  | .logFormat => s.logFormat.any fun format => format != "logfmt"
  | .httpListenAddress => s.httpListenAddress.isSome
  | .httpListenPort => s.httpListenPort.isSome
  | .grpcListenAddress => s.grpcListenAddress.isSome
  | .grpcListenPort => s.grpcListenPort.isSome
  | .httpTls => s.httpTls.isSome
  | .grpcTls => s.grpcTls.isSome
  | .httpReadTimeout => s.httpReadTimeout.isSome
  | .httpWriteTimeout => s.httpWriteTimeout.isSome
  | .httpIdleTimeout => s.httpIdleTimeout.isSome
  | .grpcMaxRecvMsgSize => s.grpcMaxRecvMsgSize.isSome
  | .grpcMaxSendMsgSize => s.grpcMaxSendMsgSize.isSome
  | .grpcMaxConcurrentStreams => s.grpcMaxConcurrentStreams.isSome
  | .gracefulShutdownTimeout => s.gracefulShutdownTimeout.isSome
  | .registerInstrumentation => s.registerInstrumentation == some true

/-- The same settings, but one of them left out. -/
def reset (s : ServerSettings) : Setting → ServerSettings
  | .logLevel => { s with logLevel := none }
  | .logFormat => { s with logFormat := none }
  | .httpListenAddress => { s with httpListenAddress := none }
  | .httpListenPort => { s with httpListenPort := none }
  | .grpcListenAddress => { s with grpcListenAddress := none }
  | .grpcListenPort => { s with grpcListenPort := none }
  | .httpTls => { s with httpTls := none }
  | .grpcTls => { s with grpcTls := none }
  | .httpReadTimeout => { s with httpReadTimeout := none }
  | .httpWriteTimeout => { s with httpWriteTimeout := none }
  | .httpIdleTimeout => { s with httpIdleTimeout := none }
  | .grpcMaxRecvMsgSize => { s with grpcMaxRecvMsgSize := none }
  | .grpcMaxSendMsgSize => { s with grpcMaxSendMsgSize := none }
  | .grpcMaxConcurrentStreams => { s with grpcMaxConcurrentStreams := none }
  | .gracefulShutdownTimeout => { s with gracefulShutdownTimeout := none }
  | .registerInstrumentation => { s with registerInstrumentation := none }

/-- The value of a setting as a document has it, unless it is the usual one. No document has
settings for encryption or switches. -/
def value? (s : ServerSettings) : Setting → Option Expr
  | .logLevel => ((s.logLevel.map Text.lowercase).filter (· != "info")).map .str
  | .logFormat => (s.logFormat.filter (· != "logfmt")).map .str
  | .httpListenAddress => s.httpListenAddress.map .str
  | .httpListenPort => s.httpListenPort.map fun n => .number (toString n.toNat)
  | .grpcListenAddress => s.grpcListenAddress.map .str
  | .grpcListenPort => s.grpcListenPort.map fun n => .number (toString n.toNat)
  | .httpReadTimeout => s.httpReadTimeout.map fun d => .str d.text
  | .httpWriteTimeout => s.httpWriteTimeout.map fun d => .str d.text
  | .httpIdleTimeout => s.httpIdleTimeout.map fun d => .str d.text
  | .grpcMaxRecvMsgSize => s.grpcMaxRecvMsgSize.map fun n => .number (toString n.toNat)
  | .grpcMaxSendMsgSize => s.grpcMaxSendMsgSize.map fun n => .number (toString n.toNat)
  | .grpcMaxConcurrentStreams => s.grpcMaxConcurrentStreams.map fun n => .number (toString n.toNat)
  | .gracefulShutdownTimeout => s.gracefulShutdownTimeout.map fun d => .str d.text
  | .httpTls | .grpcTls | .registerInstrumentation => none

theorem value?_reset (s : ServerSettings) (setting : Setting) :
    (s.reset setting).value? setting = none := by
  cases setting <;> rfl

/-! ## Blocks -/

/-- The fields of the `logging` block. -/
def loggingFields (s : ServerSettings) : Fields :=
  Field.optional "level" .text ((s.logLevel.map Text.lowercase).filter (· != "info")) ++
  Field.optional "format" .text (s.logFormat.filter (· != "logfmt"))

/-- A block that is left out when its fields stand for nothing has the attributes of its fields. -/
theorem valueIn_of_blocks {f : Special → Expr} {body : Body} {path : String} {fields : Fields}
    (h : (Body.blocks body).filter (·.name = [path]) = [⟨[path], none, parts f fields⟩] ∨
      (Body.blocks body).filter (·.name = [path]) = [] ∧ parts f fields = []) (name : String) :
    body.valueIn (some path) name = Body.attribute? (parts f fields) name := by
  unfold Body.valueIn
  dsimp only
  rcases h with h | ⟨h, hempty⟩
  · rw [h]
    rfl
  · rw [h, hempty]
    rfl

theorem parts_optional_none {α : Type} (f : Special → Expr) (name : String) (g : α → Argument) :
    parts f (Field.optional name g none) = [] := rfl

/-- The blocks and the attribute of an embedded server. A block of which nothing is there is left
out. -/
theorem exists_arguments (s : ServerSettings) : ∃ noHttp noGrpc,
    s.arguments = blockUnlessEmpty "http" noHttp s.httpFields ++
      blockUnlessEmpty "grpc" noGrpc s.grpcFields ++
      Field.optional "graceful_shutdown_timeout" .duration s.gracefulShutdownTimeout ∧
    (noHttp = true → ∀ f, parts f s.httpFields = []) ∧
    (noGrpc = true → ∀ f, parts f s.grpcFields = []) := by
  refine ⟨_, _, rfl, fun h => ?_, fun h => ?_⟩
  · simp only [Bool.and_eq_true, Option.isNone_iff_eq_none] at h
    simp [httpFields, h, parts_append, parts_optional_none]
  · simp only [Bool.and_eq_true, Option.isNone_iff_eq_none] at h
    simp [grpcFields, h, parts_append, parts_optional_none]

theorem avoids_blockUnlessEmpty {path : String} {name : List String} (h : dotted path ≠ name)
    (isEmpty : Bool) (fields : Fields) : Avoids name (blockUnlessEmpty path isEmpty fields) :=
  Field.avoids_optional takesName_blockOf h

/-- Only the fields of a block stand for its attributes. -/
theorem valueIn_blockUnlessEmpty {f : Special → Expr} {path : String} {isEmpty : Bool}
    (before : Fields) {after fields : Fields} (hpath : dotted path = [path])
    (hbefore : Avoids [path] before) (hafter : Avoids [path] after)
    (hempty : isEmpty = true → parts f fields = []) (name : String) :
    Body.valueIn (parts f (before ++ blockUnlessEmpty path isEmpty fields ++ after)) (some path)
        name =
      Body.attribute? (parts f fields) name := by
  refine valueIn_of_blocks ?_ name
  have hnone : ∀ {others : Fields}, Avoids [path] others →
      (Body.blocks (parts f others)).filter (·.name = [path]) = [] := fun h =>
    List.filter_eq_nil_iff.2 fun b hb => by simpa using h f b hb
  rw [parts_append, parts_append, Body.blocks_append, Body.blocks_append, List.filter_append,
    List.filter_append, hnone hbefore, hnone hafter, List.nil_append, List.append_nil]
  cases isEmpty with
  | false =>
    have hblocks : Body.blocks (parts f (blockUnlessEmpty path false fields)) =
        [⟨dotted path, none, parts f fields⟩] := rfl
    exact .inl (by simp [hblocks, hpath])
  | true => exact .inr ⟨rfl, hempty rfl⟩

theorem attribute?_blockUnlessEmpty (f : Special → Expr) (path : String) (isEmpty : Bool)
    (fields : Fields) (name : String) :
    Body.attribute? (parts f (blockUnlessEmpty path isEmpty fields)) name = none := by
  cases isEmpty <;> rfl

section

variable (f : Special → Expr) (s : ServerSettings) (name : String)

theorem valueIn_http :
    Body.valueIn (parts f s.arguments) (some "http") name =
      Body.attribute? (parts f s.httpFields) name := by
  obtain ⟨noHttp, noGrpc, heq, hhttp, -⟩ := s.exists_arguments
  have hgrpc : Avoids ["http"] (blockUnlessEmpty "grpc" noGrpc s.grpcFields) :=
    avoids_blockUnlessEmpty (by decide) _ _
  have hduration : Avoids ["http"] (Field.optional "graceful_shutdown_timeout" .duration
      s.gracefulShutdownTimeout) := Field.avoids_optional takesName_duration (by decide)
  rw [heq, List.append_assoc]
  exact valueIn_blockUnlessEmpty [] (by decide) avoids_nil (avoids_append.2 ⟨hgrpc, hduration⟩)
    (fun h => hhttp h f) name

theorem valueIn_grpc :
    Body.valueIn (parts f s.arguments) (some "grpc") name =
      Body.attribute? (parts f s.grpcFields) name := by
  obtain ⟨noHttp, noGrpc, heq, -, hgrpc⟩ := s.exists_arguments
  have hduration : Avoids ["grpc"] (Field.optional "graceful_shutdown_timeout" .duration
      s.gracefulShutdownTimeout) := Field.avoids_optional takesName_duration (by decide)
  have hhttp : Avoids ["grpc"] (blockUnlessEmpty "http" noHttp s.httpFields) :=
    avoids_blockUnlessEmpty (by decide) _ _
  rw [heq]
  exact valueIn_blockUnlessEmpty _ (by decide) hhttp hduration (fun h => hgrpc h f) name

theorem attribute?_arguments :
    Body.attribute? (parts f s.arguments) name =
      if "graceful_shutdown_timeout" = name then
        s.gracefulShutdownTimeout.map fun d => .str d.text
      else none := by
  rw [arguments, attribute?_parts_append, attribute?_parts_append, attribute?_blockUnlessEmpty,
    attribute?_blockUnlessEmpty, attribute?_duration, Option.none_or, Option.none_or]

end

/-! ## Uses -/

/-- How a server is used: it is the agent's own one, or a source of a job embeds it. -/
inductive Use where
  | own
  | embedded (job : LogShipper.ScrapeJob)

namespace Use

/-- What stands in the document: the `logging` block, or the attributes and nested blocks of the
source. -/
def output : Use → ServerSettings → Body
  | own, s => (Draft.ofOption (Draft.block (.ofDotted "logging") "") s.logging?).document
  | embedded _, s => parts Special.render s.arguments

/-- What is reported. -/
def findings : Use → ServerSettings → Diagnostics
  | own, s => s.agentFindings
  | embedded job, s => s.embeddedFindings job.context

/-- The settings that have a place in the document: the name of the nested block, if it is in one,
and the name of the attribute. -/
def places : Use → List (Setting × Option String × String)
  | own => [(.logLevel, some "logging", "level"), (.logFormat, some "logging", "format")]
  | embedded _ => [
    (.httpListenAddress, some "http", "listen_address"),
    (.httpListenPort, some "http", "listen_port"),
    (.httpReadTimeout, some "http", "server_read_timeout"),
    (.httpWriteTimeout, some "http", "server_write_timeout"),
    (.httpIdleTimeout, some "http", "server_idle_timeout"),
    (.grpcListenAddress, some "grpc", "listen_address"),
    (.grpcListenPort, some "grpc", "listen_port"),
    (.grpcMaxRecvMsgSize, some "grpc", "server_max_recv_msg_size"),
    (.grpcMaxSendMsgSize, some "grpc", "server_max_send_msg_size"),
    (.grpcMaxConcurrentStreams, some "grpc", "server_max_concurrent_streams"),
    (.gracefulShutdownTimeout, none, "graceful_shutdown_timeout")]

/-- The settings that are reported. -/
def reported : Use → List Setting
  | own => [.httpListenAddress, .httpListenPort, .grpcListenAddress, .grpcListenPort, .httpTls,
    .grpcTls]
  | embedded _ => [.registerInstrumentation]

/-- The settings that leave no trace. -/
def lost : Use → List Setting
  | own => [.httpReadTimeout, .httpWriteTimeout, .httpIdleTimeout, .grpcMaxRecvMsgSize,
    .grpcMaxSendMsgSize, .grpcMaxConcurrentStreams, .gracefulShutdownTimeout,
    .registerInstrumentation]
  | embedded _ => [.logLevel, .logFormat, .httpTls, .grpcTls]

/-- A setting that is not lost has a place or is reported. -/
theorem placed_or_reported {u : Use} {setting : Setting} (h : setting ∉ u.lost) :
    setting ∈ u.places.map Prod.fst ∨ setting ∈ u.reported := by
  cases u with
  | own => revert h; cases setting <;> decide
  | embedded job => revert h; cases setting <;> simp [lost, reported, places]

/-! ## Settings with a place -/

/-- A block of which nothing is there is left out. -/
theorem valueIn_logging (s : ServerSettings) (name : String) :
    (own.output s).valueIn (some "logging") name =
      Body.attribute? (parts Special.render s.loggingFields) name := by
  have hparts : AreParts (Special.Uses [] []) s.loggingFields := by simp [loggingFields]
  refine valueIn_of_blocks ?_ name
  unfold output logging?
  dsimp only
  split
  · rename_i hnone
    simp only [Bool.and_eq_true, Option.isNone_iff_eq_none] at hnone
    refine .inr ⟨rfl, ?_⟩
    rw [loggingFields, hnone.1, hnone.2]
    rfl
  · left
    show (Body.blocks (Draft.block _ "" (.record s.loggingFields)).document).filter _ = _
    rw [Draft.block_eq hparts]
    rfl

/-- A setting with a place has its value there, and no value if it is the usual one. -/
theorem valueIn_places (u : Use) (s : ServerSettings) :
    ∀ e ∈ u.places, (u.output s).valueIn e.2.1 e.2.2 = s.value? e.1 := by
  cases u with
  | own => simp [places, value?, valueIn_logging, loggingFields, attribute?_parts_append]
  | embedded job =>
    have hown : Body.valueIn (parts Special.render s.arguments) none "graceful_shutdown_timeout" =
        s.gracefulShutdownTimeout.map fun d => .str d.text := attribute?_arguments _ s _
    simp [places, value?, hown, output, valueIn_http, valueIn_grpc, httpFields, grpcFields,
      attribute?_parts_append]

theorem isSome_value? (u : Use) (s : ServerSettings) :
    ∀ e ∈ u.places, (s.value? e.1).isSome = s.isSet e.1 := by
  cases u with
  | own => simp [places, value?, isSet, Option.any_map]
  | embedded job => simp [places, value?, isSet]

/-! ## Settings that are reported -/

/-- A message on one line with the key of a setting in it names the setting. -/
theorem isNamed_warning {setting : Setting} {message : String} (before after : String)
    (h : message = before ++ ("server." ++ setting.name) ++ after)
    (hbefore : '\n' ∉ before.toList) (hafter : '\n' ∉ after.toList) :
    setting.IsNamed (.warning message) := by
  have hname := setting.lineFeed_not_mem_name
  have hserver : '\n' ∉ "server.".toList := by decide
  have hline : '\n' ∉ message.toList := by
    simp only [h, String.toList_append, List.mem_append, not_or]
    exact ⟨⟨hbefore, hserver, hname⟩, hafter⟩
  refine ⟨before.toList, after.toList, ?_⟩
  rw [Diagnostic.warning, Diagnostic.of, oneLine_of_unbroken hline, h]
  simp only [String.toList_append]

theorem lineFeed_not_mem_context (job : LogShipper.ScrapeJob) : '\n' ∉ job.context.toList := by
  have hquoted := Text.lineFeed_not_mem_quoted job.name
  rw [LogShipper.ScrapeJob.context, String.toList_append, List.mem_append, not_or]
  exact ⟨by decide, hquoted⟩

theorem exists_isNamed {u : Use} {s : ServerSettings} {setting : Setting} (h : setting ∈ u.reported)
    (hset : s.isSet setting = true) : ∃ d ∈ u.findings s, setting.IsNamed d := by
  cases u with
  | own =>
    have hmem : (setting.name, true) ∈ s.commandLineSettings := by
      revert h hset
      cases setting <;> simp [reported, isSet, commandLineSettings, Setting.name]
    have hfiltered : (setting.name, true) ∈ s.commandLineSettings.filter Prod.snd :=
      List.mem_filter.2 ⟨hmem, rfl⟩
    refine ⟨_, List.mem_map_of_mem hfiltered, ?_⟩
    exact isNamed_warning "" " is not converted; set the equivalent command-line flag instead"
      (by simp) (by simp) (by decide)
  | embedded job =>
    obtain rfl := List.mem_singleton.1 h
    have hon : s.registerInstrumentation = some true := beq_iff_eq.1 hset
    refine ⟨.warning (job.context ++
      ": server.register_instrumentation is not supported and was ignored"), ?_, ?_⟩
    · simp [findings, embeddedFindings, Diagnostic.when, hon]
    · have hcontext := lineFeed_not_mem_context job
      refine isNamed_warning (job.context ++ ": ") " is not supported and was ignored" ?_ ?_
        (by decide)
      · simp only [String.append_assoc]
        exact congrArg (job.context ++ ·) (by decide)
      · rw [String.toList_append, List.mem_append, not_or]
        exact ⟨hcontext, by decide⟩

/-! ## Settings that are lost -/

theorem logging?_reset {setting : Setting} (h : setting ∈ own.lost) (s : ServerSettings) :
    (s.reset setting).logging? = s.logging? := by
  have hall : ∀ setting ∈ own.lost, (s.reset setting).logging? = s.logging? := by
    simp [lost, reset, logging?]
  exact hall setting h

theorem arguments_reset {job : LogShipper.ScrapeJob} {setting : Setting}
    (h : setting ∈ (embedded job).lost) (s : ServerSettings) :
    (s.reset setting).arguments = s.arguments := by
  have hall : ∀ setting ∈ (embedded job).lost, (s.reset setting).arguments = s.arguments := by
    simp [lost, reset, arguments, httpFields, grpcFields]
  exact hall setting h

theorem output_reset {u : Use} {setting : Setting} (h : setting ∈ u.lost) (s : ServerSettings) :
    u.output (s.reset setting) = u.output s := by
  cases u with
  | own => rw [output, output, logging?_reset h]
  | embedded job => rw [output, output, arguments_reset h]

theorem findings_reset {u : Use} {setting : Setting} (h : setting ∈ u.lost) (s : ServerSettings) :
    u.findings (s.reset setting) = u.findings s := by
  have hall : ∀ setting ∈ u.lost, u.findings (s.reset setting) = u.findings s := by
    cases u with
    | own => simp [lost, reset, findings, agentFindings, commandLineSettings]
    | embedded job => simp [lost, reset, findings, embeddedFindings]
  exact hall setting h

theorem agentFindings_reset {setting : Setting} (h : setting ∈ own.lost) (s : ServerSettings) :
    (s.reset setting).agentFindings = s.agentFindings :=
  findings_reset h s

theorem embeddedFindings_reset {job : LogShipper.ScrapeJob} {setting : Setting}
    (h : setting ∈ (embedded job).lost) (s : ServerSettings) :
    (s.reset setting).embeddedFindings job.context = s.embeddedFindings job.context :=
  findings_reset h s

end Use

end ServerSettings

open ServerSettings (Use)

/-! ## The agent's own server -/

variable {setting : ServerSettings.Setting}

theorem LogShipper.Config.convert_reset (h : setting ∈ Use.own.lost) (config : Config) :
    convert { config with server := config.server.reset setting } = config.convert := by
  rw [convert, convert, Use.logging?_reset h, Use.agentFindings_reset h]
  rfl

theorem Agent.Config.convert_reset (h : setting ∈ Use.own.lost) (config : Config) :
    convert { config with server := config.server.reset setting } = config.convert := by
  have hown : findings { config with server := config.server.reset setting } = config.findings := by
    rw [findings, findings, Use.agentFindings_reset h]
  rw [convert, convert, Use.logging?_reset h, hown]

namespace LogShipper

namespace ScrapeJob

/-- The job without a setting of the servers that its sources embed. -/
def resetServers (setting : ServerSettings.Setting) (job : ScrapeJob) : ScrapeJob := { job with
  subscription := job.subscription.map fun s => { s with server := s.server.reset setting }
  herokuDrain := job.herokuDrain.map fun r => { r with server := r.server.reset setting }
  pushApi := job.pushApi.map fun r => { r with server := r.server.reset setting } }

variable {job : ScrapeJob}

theorem block_reset_subscription (h : setting ∈ (Use.embedded job).lost) (s : Subscription)
    (mode : SubscriptionMode) (outlet : Outlet) :
    Subscription.block { s with server := s.server.reset setting } mode job.context outlet =
      s.block mode job.context outlet := by
  cases mode with
  | pull => rfl
  | push =>
    simp only [Subscription.block, Subscription.modeFields, Use.arguments_reset h,
      Use.embeddedFindings_reset h]
    rfl

theorem block_reset_receiver (h : setting ∈ (Use.embedded job).lost) (r : PushReceiver)
    (kind : ComponentKind) (outlet : Outlet) :
    PushReceiver.block { r with server := r.server.reset setting } kind job.context outlet =
      r.block kind job.context outlet := by
  simp only [PushReceiver.block, Use.arguments_reset h, Use.embeddedFindings_reset h]

theorem relabelsTargets_resetServers (setting : ServerSettings.Setting) (job : ScrapeJob) :
    (job.resetServers setting).relabelsTargets = job.relabelsTargets := by
  have hpushed : (job.resetServers setting).isPushedTo = job.isPushedTo := by
    simp only [isPushedTo, resetServers, Option.isSome_map]
  rw [relabelsTargets, relabelsTargets, hpushed]
  rfl

theorem sources_resetServers (h : setting ∈ (Use.embedded job).lost) (around : Surroundings)
    (label : String) :
    (job.resetServers setting).sources around label = job.sources around label := by
  have hsubscription : ∀ outlet : Outlet,
      ((job.resetServers setting).subscription.bind fun s =>
        s.mode?.map fun mode => s.block mode job.context outlet) =
      job.subscription.bind fun s => s.mode?.map fun mode => s.block mode job.context outlet := by
    intro outlet
    show Option.bind (Option.map _ _) _ = _
    rw [Option.bind_map]
    refine congrArg job.subscription.bind (funext fun s => ?_)
    exact congrArg (s.mode?.map ·) (funext fun mode => block_reset_subscription h s mode outlet)
  have hreceiver : ∀ (r : Option PushReceiver) (kind : ComponentKind) (outlet : Outlet),
      ((r.map fun r => { r with server := r.server.reset setting }).map fun r =>
        r.block kind job.context outlet) = r.map fun r => r.block kind job.context outlet := by
    intro r kind outlet
    rw [Option.map_map]
    exact congrArg (r.map ·) (funext fun r => block_reset_receiver h r kind outlet)
  have hcontext : (job.resetServers setting).context = job.context := rfl
  have hreceivers : (job.resetServers setting).receivers around label =
      job.receivers around label := rfl
  have hheroku := hreceiver job.herokuDrain Kind.sourceHeroku
  have hpush := hreceiver job.pushApi Kind.sourceApi
  unfold sources
  dsimp only
  rw [relabelsTargets_resetServers, hcontext, hreceivers, hsubscription]
  unfold resetServers
  dsimp only
  rw [hheroku, hpush]

theorem convert_resetServers (h : setting ∈ (Use.embedded job).lost) (around : Surroundings) :
    (job.resetServers setting).convert around = job.convert around := by
  have hmode : (job.resetServers setting).modeFault? = job.modeFault? := by
    rw [modeFault?, modeFault?, resetServers, Option.bind_map]
    rfl
  have hdraft : (job.resetServers setting).draft around = job.draft around := by
    funext label
    have hrelabels := relabelsTargets_resetServers setting job
    have hfiles : (job.resetServers setting).files around label = job.files around label := by
      rw [files, files, pathSource, pathSource, hrelabels]
      rfl
    rw [draft, draft, hrelabels, hfiles, sources_resetServers h]
    rfl
  rw [convert, convert, hmode, hdraft]
  rfl

end ScrapeJob

end LogShipper

/-! ## What becomes of every setting -/

namespace SourceConfig

/-- Every setting of a server that has another value than the usual one and is not lost has this
value in the `logging`, `http` or `grpc` block or in the attribute for the time to shut down, which
has none without the setting, or it is named in a finding. The settings that are lost leave no trace
in either use of a server: the conversion of an agent or of a log shipper does not depend on those
of its own server, nor that of a job on those of the servers that its sources embed. -/
theorem serverSettings_accounted (registry : Collector.Registry) :
    ServerSettings.Setting.all.map ServerSettings.Setting.name =
        ServerSettings.record.fields.map Field.key ∧
    ∀ setting : ServerSettings.Setting, setting ∈ ServerSettings.Setting.all ∧
      (∀ (u : Use) (s : ServerSettings), s.isSet setting = true → setting ∉ u.lost →
        (∃ block? name value, s.value? setting = some value ∧
          (u.output s).valueIn block? name = some value ∧
          (u.output (s.reset setting)).valueIn block? name = none) ∨
        ∃ d ∈ u.findings s, setting.IsNamed d) ∧
      (∀ (u : Use) (s : ServerSettings), setting ∈ u.lost →
        u.output (s.reset setting) = u.output s ∧ u.findings (s.reset setting) = u.findings s) ∧
      (setting ∈ Use.own.lost →
        (∀ config : Agent.Config,
          (agent { config with server := config.server.reset setting }).convert registry =
            (agent config).convert registry) ∧
        ∀ config : LogShipper.Config,
          (logShipper { config with server := config.server.reset setting }).convert registry =
            (logShipper config).convert registry) ∧
      ∀ (job : LogShipper.ScrapeJob) (around : LogShipper.Surroundings),
        setting ∈ (Use.embedded job).lost →
          (job.resetServers setting).convert around = job.convert around := by
  refine ⟨ServerSettings.Setting.map_name_all, fun setting => ⟨setting.mem_all,
    fun u s hset hlost => ?_,
    fun u s hlost => ⟨Use.output_reset hlost s, Use.findings_reset hlost s⟩,
    fun hlost => ⟨fun config => ?_, fun config => ?_⟩,
    fun job around hlost => LogShipper.ScrapeJob.convert_resetServers hlost around⟩⟩
  · rcases Use.placed_or_reported hlost with hplaced | hreported
    · obtain ⟨⟨_, block?, name⟩, he, rfl⟩ := List.mem_map.1 hplaced
      have hvalue := u.isSome_value? s _ he
      rw [hset] at hvalue
      obtain ⟨value, hvalue⟩ := Option.isSome_iff_exists.1 hvalue
      refine .inl ⟨block?, name, value, hvalue, (u.valueIn_places s _ he).trans hvalue, ?_⟩
      exact (u.valueIn_places _ _ he).trans (s.value?_reset _)
    · exact .inr (Use.exists_isNamed hreported hset)
  · rw [convert, convert, standalone, standalone, draft, draft, Agent.Config.convert_reset hlost]
  · rw [convert, convert, standalone, standalone, draft, draft,
      LogShipper.Config.convert_reset hlost]

/-- Reading and switches of a source that is pushed to are accounted for, and its level is lost. -/
theorem serverSettings_accounted_pushed :
    let use : Use := .embedded { name := "push" }
    let server : ServerSettings :=
      { httpReadTimeout := some ⟨30000000000⟩, registerInstrumentation := some true,
        logLevel := some "debug" }
    ((∃ block? name value, server.value? .httpReadTimeout = some value ∧
        (use.output server).valueIn block? name = some value ∧
        (use.output (server.reset .httpReadTimeout)).valueIn block? name = none) ∨
      ∃ d ∈ use.findings server, ServerSettings.Setting.httpReadTimeout.IsNamed d) ∧
    ((∃ block? name value, server.value? .registerInstrumentation = some value ∧
        (use.output server).valueIn block? name = some value ∧
        (use.output (server.reset .registerInstrumentation)).valueIn block? name = none) ∨
      ∃ d ∈ use.findings server, ServerSettings.Setting.registerInstrumentation.IsNamed d) ∧
    use.output (server.reset .logLevel) = use.output server ∧
    use.findings (server.reset .logLevel) = use.findings server := by
  intro use server
  have hall := (serverSettings_accounted .builtin).2
  refine ⟨(hall .httpReadTimeout).2.1 use server rfl ?_,
    (hall .registerInstrumentation).2.1 use server rfl ?_,
    (hall .logLevel).2.2.1 use server (List.mem_cons_self ..)⟩
  · simp [use, Use.lost]
  · simp [use, Use.lost]

/-- A log shipper whose own server limits the time for reading. -/
def hurried : SourceConfig := .logShipper {
  server := { httpReadTimeout := some ⟨30000000000⟩ }
  clients := [{ url := "http://loki:3100/loki/api/v1/push" }] }

/-- The limit is set, and neither does it change what the server becomes nor is it named; the
document has the block of the client only, and nothing is reported. -/
theorem serverSettings_lost_timeout :
    let server : ServerSettings := { httpReadTimeout := some ⟨30000000000⟩ }
    server.isSet .httpReadTimeout = true ∧
    Use.own.output server = Use.own.output (server.reset .httpReadTimeout) ∧
    Use.own.findings server = [] ∧
    (Body.blocks (hurried.standalone .builtin).document).map Block.name = [["loki", "write"]] ∧
    (hurried.convert .builtin).findings = [] := by
  have hblocks : (Body.blocks (hurried.standalone .builtin).document).map Block.name =
      [["loki", "write"]] := by decide +kernel
  have hfindings : (hurried.standalone .builtin).findings = [] := by decide +kernel
  exact ⟨rfl, rfl, rfl, hblocks, by rw [convert_eq, hfindings]⟩

end SourceConfig

end AgentConvert
