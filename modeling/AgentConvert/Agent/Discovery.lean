import AgentConvert.Component
import AgentConvert.Settings.Http
import AgentConvert.Settings.Targets

/-!
# Discovery

The ways in which a scrape job finds targets that are not listed: their settings, and the
components that they become.
-/

namespace AgentConvert.Agent

/-- Finds targets by the records of names. -/
structure DnsDiscovery where
  names : List String := []
  type : Option String := none
  port : Option UInt16 := none
  refreshInterval : Option Duration := none
  deriving Inhabited

namespace DnsDiscovery

def record : Record DnsDiscovery where
  name := "DnsSdConfig"
  initial := {}
  fields := [
    .of "names" Decode.texts fun v s => { s with names := v },
    .of "type" (Decode.optional Decode.text) fun v s => { s with type := v },
    .of "port" (Decode.optional Decode.uint16) fun v s => { s with port := v },
    .of "refresh_interval" (Decode.optional Decode.duration) fun v s =>
      { s with refreshInterval := v }]

def arguments (d : DnsDiscovery) : Fields :=
  Field.always "names" (.texts d.names) ++
  Field.optional "type" .text d.type ++
  Field.optional "port" .uint16 d.port ++
  Field.optional "refresh_interval" .duration d.refreshInterval

end DnsDiscovery

/-- Asks a server for targets. -/
structure HttpDiscovery where
  url : String := ""
  refreshInterval : Option Duration := none
  http : HttpClient := {}
  deriving Inhabited

namespace HttpDiscovery

def record : OpenRecord HttpDiscovery where
  name := "HttpSdConfig"
  initial := {}
  fields := [
    .of "url" Decode.text fun v s => { s with url := v },
    .of "refresh_interval" (Decode.optional Decode.duration) fun v s =>
      { s with refreshInterval := v }]
  inlined := HttpClient.fields.map (.inside fun change s => { s with http := change s.http })

def arguments (d : HttpDiscovery) : Fields :=
  Field.always "url" (.text d.url) ++
  Field.optional "refresh_interval" .duration d.refreshInterval ++
  d.http.arguments

end HttpDiscovery

/-- Reads targets from files. -/
structure FileDiscovery where
  files : List String := []
  refreshInterval : Option Duration := none
  deriving Inhabited

namespace FileDiscovery

def record : Record FileDiscovery where
  name := "FileSdConfig"
  initial := {}
  fields := [
    .of "files" Decode.texts fun v s => { s with files := v },
    .of "refresh_interval" (Decode.optional Decode.duration) fun v s =>
      { s with refreshInterval := v }]

def arguments (d : FileDiscovery) : Fields :=
  Field.always "files" (.texts d.files) ++
  Field.optional "refresh_interval" .duration d.refreshInterval

end FileDiscovery

/-- Asks a catalog of services for targets. -/
structure ConsulDiscovery where
  server : Option String := none
  token : Option Secret := none
  datacenter : Option String := none
  «namespace» : Option String := none
  partition : Option String := none
  tagSeparator : Option String := none
  scheme : Option String := none
  username : Option String := none
  password : Option Secret := none
  allowStale : Option Bool := none
  services : List String := []
  tags : List String := []
  nodeMeta : Dictionary String := .empty
  refreshInterval : Option Duration := none
  http : HttpClient := {}
  deriving Inhabited

namespace ConsulDiscovery

def record : OpenRecord ConsulDiscovery where
  name := "ConsulSdConfig"
  initial := {}
  fields := [
    .of "server" (Decode.optional Decode.text) fun v s => { s with server := v },
    .of "token" (Decode.optional Decode.secret) fun v s => { s with token := v },
    .of "datacenter" (Decode.optional Decode.text) fun v s => { s with datacenter := v },
    .of "namespace" (Decode.optional Decode.text) fun v s => { s with «namespace» := v },
    .of "partition" (Decode.optional Decode.text) fun v s => { s with partition := v },
    .of "tag_separator" (Decode.optional Decode.text) fun v s => { s with tagSeparator := v },
    .of "scheme" (Decode.optional Decode.text) fun v s => { s with scheme := v },
    .of "username" (Decode.optional Decode.text) fun v s => { s with username := v },
    .of "password" (Decode.optional Decode.secret) fun v s => { s with password := v },
    .of "allow_stale" (Decode.optional Decode.bool) fun v s => { s with allowStale := v },
    .of "services" Decode.texts fun v s => { s with services := v },
    .of "tags" Decode.texts fun v s => { s with tags := v },
    .of "node_meta" Decode.labels fun v s => { s with nodeMeta := v },
    .of "refresh_interval" (Decode.optional Decode.duration) fun v s =>
      { s with refreshInterval := v }]
  inlined := HttpClient.fields.map (.inside fun change s => { s with http := change s.http })

def arguments (d : ConsulDiscovery) : Fields :=
  Field.optional "server" .text d.server ++
  Field.optional "token" .secret d.token ++
  Field.optional "datacenter" .text d.datacenter ++
  Field.optional "namespace" .text d.«namespace» ++
  Field.optional "partition" .text d.partition ++
  Field.optional "tag_separator" .text d.tagSeparator ++
  Field.optional "scheme" .text d.scheme ++
  Field.optional "username" .text d.username ++
  Field.optional "password" .secret d.password ++
  Field.optional "allow_stale" .bool d.allowStale ++
  Field.unlessNil "services" .texts d.services ++
  Field.unlessNil "tags" .texts d.tags ++
  Field.unlessEmpty "node_meta" d.nodeMeta ++
  Field.optional "refresh_interval" .duration d.refreshInterval ++
  d.http.arguments

end ConsulDiscovery

/-- Asks a hosting provider for targets. -/
structure OvhcloudDiscovery where
  endpoint : Option String := none
  applicationKey : Option String := none
  applicationSecret : Option Secret := none
  consumerKey : Option Secret := none
  service : Option String := none
  refreshInterval : Option Duration := none
  deriving Inhabited

namespace OvhcloudDiscovery

def record : Record OvhcloudDiscovery where
  name := "OvhcloudSdConfig"
  initial := {}
  fields := [
    .of "endpoint" (Decode.optional Decode.text) fun v s => { s with endpoint := v },
    .of "application_key" (Decode.optional Decode.text) fun v s => { s with applicationKey := v },
    .of "application_secret" (Decode.optional Decode.secret) fun v s =>
      { s with applicationSecret := v },
    .of "consumer_key" (Decode.optional Decode.secret) fun v s => { s with consumerKey := v },
    .of "service" (Decode.optional Decode.text) fun v s => { s with service := v },
    .of "refresh_interval" (Decode.optional Decode.duration) fun v s =>
      { s with refreshInterval := v }]

def arguments (d : OvhcloudDiscovery) : Fields :=
  Field.optional "endpoint" .text d.endpoint ++
  Field.optional "application_key" .text d.applicationKey ++
  Field.optional "application_secret" .secret d.applicationSecret ++
  Field.optional "consumer_key" .secret d.consumerKey ++
  Field.optional "refresh_interval" .duration d.refreshInterval ++
  Field.optional "service" .text d.service

end OvhcloudDiscovery

/-! ## Components of discovery -/

/-- A component that discovers targets, and what of it is not converted. -/
structure Discovery where
  kind : ComponentKind
  arguments : Fields
  findings : Diagnostics := []

namespace Discovery

/-- The component for targets that are listed. -/
def listed (targets : List Target) : Discovery :=
  ⟨.ofDotted "discovery.static", Field.always "targets" (.targets targets), []⟩

def dns (d : DnsDiscovery) : Discovery := ⟨.ofDotted "discovery.dns", d.arguments, []⟩

def http (context : String) (d : HttpDiscovery) : Discovery :=
  ⟨.ofDotted "discovery.http", d.arguments, d.http.findings context⟩

def file (d : FileDiscovery) : Discovery := ⟨.ofDotted "discovery.file", d.arguments, []⟩

def consul (context : String) (d : ConsulDiscovery) : Discovery :=
  ⟨.ofDotted "discovery.consul", d.arguments, d.http.findings context⟩

def ovhcloud (d : OvhcloudDiscovery) : Discovery :=
  ⟨.ofDotted "discovery.ovhcloud", d.arguments, []⟩

end Discovery

end AgentConvert.Agent
