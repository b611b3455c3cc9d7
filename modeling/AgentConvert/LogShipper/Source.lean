import AgentConvert.ByteSize
import AgentConvert.Component
import AgentConvert.Settings.Http
import AgentConvert.Settings.Server

/-!
# Log sources

The sources of logs other than files: their settings, and the blocks that they become. A source
that is pushed to forwards to given receivers and may apply relabel rules; a source that pulls
forwards to wherever its job says.
-/

namespace AgentConvert.LogShipper

/-- A source as a block, and what of it is not converted. -/
structure SourceBlock where
  kind : ComponentKind
  arguments : Fields
  findings : Diagnostics := []

/-- Where a source that is pushed to forwards its entries, and the rules that it applies. -/
structure Outlet where
  receivers : List String
  rules : Option Placeholder

namespace Outlet

def forwardTo (o : Outlet) : Fields := Field.always "forward_to" (.references o.receivers)

def relabelRules (o : Outlet) : Fields := Field.optional "relabel_rules" .placeholder o.rules

end Outlet

/-! ## Publish and subscribe -/

/-- How a subscription is read. -/
inductive SubscriptionMode where
  | pull
  | push
  deriving DecidableEq, Inhabited

/-- A subscription to a topic. -/
structure Subscription where
  subscriptionType : String := ""
  projectId : Option String := none
  subscription : Option String := none
  server : ServerSettings := {}
  pushTimeout : Option Duration := none
  labels : Dictionary String := .empty
  useIncomingTimestamp : Bool := false
  useFullLine : Bool := false
  deriving Inhabited

namespace Subscription

def record : Record Subscription where
  name := "GcplogConfig"
  initial := {}
  fields := [
    .of "subscription_type" Decode.text fun v s => { s with subscriptionType := v },
    .of "project_id" (Decode.optional Decode.text) fun v s => { s with projectId := v },
    .of "subscription" (Decode.optional Decode.text) fun v s => { s with subscription := v },
    .of "server" ServerSettings.record.decode fun v s => { s with server := v },
    .of "push_timeout" (Decode.optional Decode.duration) fun v s => { s with pushTimeout := v },
    .of "labels" Decode.labels fun v s => { s with labels := v },
    .of "use_incoming_timestamp" Decode.bool fun v s => { s with useIncomingTimestamp := v },
    .of "use_full_line" Decode.bool fun v s => { s with useFullLine := v }]

/-- The mode that the type names; no name is pull. -/
def mode? (s : Subscription) : Option SubscriptionMode :=
  if s.subscriptionType = "" ∨ s.subscriptionType = "pull" then some .pull
  else if s.subscriptionType = "push" then some .push
  else none

/-- The message for a type that names no mode. -/
def modeMessage (s : Subscription) : String :=
  "gcplog.subscription_type must be one of 'pull' or 'push', got '" ++ s.subscriptionType ++ "'"

/-- The fields that both modes have. -/
def sharedFields (s : Subscription) : Fields :=
  Field.unlessEmpty "labels" s.labels ++
  Field.whenOn "use_incoming_timestamp" s.useIncomingTimestamp ++
  Field.whenOn "use_full_line" s.useFullLine

/-- The nested block of a mode. -/
def modeFields (s : Subscription) : SubscriptionMode → Fields
  | .pull =>
    Field.always "pull" (.blockOf (Field.optional "project_id" .text s.projectId ++
      Field.optional "subscription" .text s.subscription ++ s.sharedFields))
  | .push =>
    Field.always "push" (.blockOf (s.server.arguments ++
      Field.optional "push_timeout" .duration s.pushTimeout ++ s.sharedFields))

def block (s : Subscription) (mode : SubscriptionMode) (context : String) (o : Outlet) :
    SourceBlock where
  kind := .ofDotted "loki.source.gcplog"
  arguments := s.modeFields mode ++ o.forwardTo ++ o.relabelRules
  findings := match mode with
    | .push => s.server.embeddedFindings context
    | .pull => []

end Subscription

/-! ## Datagrams -/

/-- A listener for messages in datagrams. -/
structure GelfListener where
  listenAddress : Option String := none
  labels : Dictionary String := .empty
  useIncomingTimestamp : Bool := false
  deriving Inhabited

namespace GelfListener

def record : Record GelfListener where
  name := "GelfConfig"
  initial := {}
  fields := [
    .of "listen_address" (Decode.optional Decode.text) fun v s => { s with listenAddress := v },
    .of "labels" Decode.labels fun v s => { s with labels := v },
    .of "use_incoming_timestamp" Decode.bool fun v s => { s with useIncomingTimestamp := v }]

def block (g : GelfListener) (o : Outlet) : SourceBlock where
  kind := .ofDotted "loki.source.gelf"
  arguments := Field.optional "listen_address" .text g.listenAddress ++
    Field.whenOn "use_incoming_timestamp" g.useIncomingTimestamp ++ o.relabelRules ++ o.forwardTo

end GelfListener

/-! ## Push receivers -/

/-- A server that logs are pushed to. -/
structure PushReceiver where
  server : ServerSettings := {}
  labels : Dictionary String := .empty
  useIncomingTimestamp : Bool := false
  deriving Inhabited

namespace PushReceiver

/-- How a receiver is decoded, as the record with the given name. -/
def record (name : String) : Record PushReceiver where
  name := name
  initial := {}
  fields := [
    .of "server" ServerSettings.record.decode fun v s => { s with server := v },
    .of "labels" Decode.labels fun v s => { s with labels := v },
    .of "use_incoming_timestamp" Decode.bool fun v s => { s with useIncomingTimestamp := v }]

def block (r : PushReceiver) (kind : ComponentKind) (context : String) (o : Outlet) :
    SourceBlock where
  kind := kind
  arguments := r.server.arguments ++ Field.unlessEmpty "labels" r.labels ++
    Field.whenOn "use_incoming_timestamp" r.useIncomingTimestamp ++ o.forwardTo ++ o.relabelRules
  findings := r.server.embeddedFindings context

end PushReceiver

/-! ## Syslog -/

/-- A listener for syslog messages. -/
structure SyslogListener where
  listenAddress : Option String := none
  listenProtocol : Option String := none
  idleTimeout : Option Duration := none
  labelStructuredData : Bool := false
  labels : Dictionary String := .empty
  useIncomingTimestamp : Bool := false
  useRfc5424Message : Bool := false
  maxMessageLength : Option UInt64 := none
  tls : Option TlsSettings := none
  deriving Inhabited

namespace SyslogListener

def record : Record SyslogListener where
  name := "SyslogConfig"
  initial := {}
  fields := [
    .of "listen_address" (Decode.optional Decode.text) fun v s => { s with listenAddress := v },
    .of "listen_protocol" (Decode.optional Decode.text) fun v s => { s with listenProtocol := v },
    .of "idle_timeout" (Decode.optional Decode.duration) fun v s => { s with idleTimeout := v },
    .of "label_structured_data" Decode.bool fun v s => { s with labelStructuredData := v },
    .of "labels" Decode.labels fun v s => { s with labels := v },
    .of "use_incoming_timestamp" Decode.bool fun v s => { s with useIncomingTimestamp := v },
    .of "use_rfc5424_message" Decode.bool fun v s => { s with useRfc5424Message := v },
    .of "max_message_length" (Decode.optional Decode.uint64) fun v s =>
      { s with maxMessageLength := v },
    .of "tls_config" (Decode.optional TlsSettings.record.decode) fun v s => { s with tls := v }]

/-- The nested block of the listener. -/
def listener (l : SyslogListener) : Argument :=
  .blockOf (Field.optional "address" .text l.listenAddress ++
    Field.optional "protocol" .text l.listenProtocol ++
    Field.optional "idle_timeout" .duration l.idleTimeout ++
    Field.whenOn "label_structured_data" l.labelStructuredData ++
    Field.unlessEmpty "labels" l.labels ++
    Field.whenOn "use_incoming_timestamp" l.useIncomingTimestamp ++
    Field.whenOn "use_rfc5424_message" l.useRfc5424Message ++
    Field.optional "max_message_length" .uint64 l.maxMessageLength ++
    Field.optional "tls_config" TlsSettings.block l.tls)

def block (l : SyslogListener) (o : Outlet) : SourceBlock where
  kind := .ofDotted "loki.source.syslog"
  arguments := Field.always "listener" l.listener ++ o.forwardTo ++ o.relabelRules

end SyslogListener

/-! ## Sources that pull -/

/-- Where a source that pulls forwards its entries; the job fills it in. -/
def forwardToJob : Fields := Field.always "forward_to" (.placeholder .logsReceivers)

/-- The logs of a content delivery network. -/
structure CloudflareSource where
  apiToken : Secret := ⟨""⟩
  zoneId : Option String := none
  labels : Dictionary String := .empty
  workers : Option UInt32 := none
  pullRange : Option Duration := none
  fieldsType : Option String := none
  deriving Inhabited

namespace CloudflareSource

def record : Record CloudflareSource where
  name := "CloudflareConfig"
  initial := {}
  fields := [
    .of "api_token" Decode.secret fun v s => { s with apiToken := v },
    .of "zone_id" (Decode.optional Decode.text) fun v s => { s with zoneId := v },
    .of "labels" Decode.labels fun v s => { s with labels := v },
    .of "workers" (Decode.optional Decode.uint32) fun v s => { s with workers := v },
    .of "pull_range" (Decode.optional Decode.duration) fun v s => { s with pullRange := v },
    .of "fields_type" (Decode.optional Decode.text) fun v s => { s with fieldsType := v }]

def block (c : CloudflareSource) : SourceBlock where
  kind := .ofDotted "loki.source.cloudflare"
  arguments := Field.always "api_token" (.secret c.apiToken) ++
    Field.optional "zone_id" .text c.zoneId ++
    Field.unlessEmpty "labels" c.labels ++
    Field.optional "workers" .uint32 c.workers ++
    Field.optional "pull_range" .duration c.pullRange ++
    Field.optional "fields_type" .text c.fieldsType ++ forwardToJob

end CloudflareSource

/-- An event log of the operating system. -/
structure EventLogSource where
  locale : Option UInt32 := none
  eventlogName : Option String := none
  xpathQuery : Option String := none
  bookmarkPath : Option String := none
  pollInterval : Option Duration := none
  excludeEventData : Bool := false
  excludeUserData : Bool := false
  excludeEventMessage : Bool := false
  useIncomingTimestamp : Bool := false
  labels : Dictionary String := .empty
  deriving Inhabited

namespace EventLogSource

def record : Record EventLogSource where
  name := "WindowsEventsConfig"
  initial := {}
  fields := [
    .of "locale" (Decode.optional Decode.uint32) fun v s => { s with locale := v },
    .of "eventlog_name" (Decode.optional Decode.text) fun v s => { s with eventlogName := v },
    .of "xpath_query" (Decode.optional Decode.text) fun v s => { s with xpathQuery := v },
    .of "bookmark_path" (Decode.optional Decode.text) fun v s => { s with bookmarkPath := v },
    .of "poll_interval" (Decode.optional Decode.duration) fun v s => { s with pollInterval := v },
    .of "exclude_event_data" Decode.bool fun v s => { s with excludeEventData := v },
    .of "exclude_user_data" Decode.bool fun v s => { s with excludeUserData := v },
    .of "exclude_event_message" Decode.bool fun v s => { s with excludeEventMessage := v },
    .of "use_incoming_timestamp" Decode.bool fun v s => { s with useIncomingTimestamp := v },
    .of "labels" Decode.labels fun v s => { s with labels := v }]

def block (e : EventLogSource) : SourceBlock where
  kind := .ofDotted "loki.source.windowsevent"
  arguments := Field.optional "locale" .uint32 e.locale ++
    Field.optional "eventlog_name" .text e.eventlogName ++
    Field.optional "xpath_query" .text e.xpathQuery ++
    Field.optional "legacy_bookmark_path" .text e.bookmarkPath ++
    Field.optional "poll_interval" .duration e.pollInterval ++
    Field.whenOn "exclude_event_data" e.excludeEventData ++
    Field.whenOn "exclude_user_data" e.excludeUserData ++
    Field.whenOn "exclude_event_message" e.excludeEventMessage ++
    Field.whenOn "use_incoming_timestamp" e.useIncomingTimestamp ++ forwardToJob ++
    Field.unlessEmpty "labels" e.labels

end EventLogSource

end AgentConvert.LogShipper
