import AgentConvert.Component
import AgentConvert.Settings.Http

/-!
# Exporters

The exporters that an agent has built in. An exporter is a table of settings: the key of each in
the configuration, what it holds, and the argument of the component that it becomes. One exporter
gathers three of its settings into a nested block (`ExporterKind.blocks`).
-/

namespace AgentConvert.Agent

/-! ## Settings -/

/-- What a setting of an exporter holds. -/
inductive SettingType where
  | text
  | flag
  | count
  | duration
  | secret
  | texts
  | secrets
  | basicAuth
  | tls
  deriving DecidableEq

/-- The value of a setting of an exporter. -/
inductive Setting where
  | text (value : Option String)
  | flag (value : Option Bool)
  | count (value : Option UInt32)
  | duration (value : Option Duration)
  | secret (value : Option Secret)
  | texts (values : List String)
  | secrets (values : List Secret)
  | basicAuth (value : Option BasicAuth)
  | tls (value : Option TlsSettings)
  deriving DecidableEq

/-- The value of a setting that is not set. -/
def SettingType.unset : SettingType → Setting
  | text => .text none
  | flag => .flag none
  | count => .count none
  | duration => .duration none
  | secret => .secret none
  | texts => .texts []
  | secrets => .secrets []
  | basicAuth => .basicAuth none
  | tls => .tls none

/-- How the value of a setting is decoded. -/
def SettingType.decode : SettingType → Decoder Setting
  | text => fun v => .text <$> Decode.optional Decode.text v
  | flag => fun v => .flag <$> Decode.optional Decode.bool v
  | count => fun v => .count <$> Decode.optional Decode.uint32 v
  | duration => fun v => .duration <$> Decode.optional Decode.duration v
  | secret => fun v => .secret <$> Decode.optional Decode.secret v
  | texts => fun v => .texts <$> Decode.texts v
  | secrets => fun v => .secrets <$> Decode.list Decode.secret v
  | basicAuth => fun v => .basicAuth <$> Decode.optional BasicAuth.record.decode v
  | tls => fun v => .tls <$> Decode.optional TlsSettings.record.decode v

/-- The argument that a setting becomes; a list without items is left out unless it is to be there
`always`. -/
def Setting.arguments (name : String) (always : Bool) : Setting → Fields
  | text v => Field.optional name .text v
  | flag v => Field.optional name .bool v
  | count v => Field.optional name .uint32 v
  | duration v => Field.optional name .duration v
  | secret v => Field.optional name .secret v
  | texts vs => if always then Field.always name (.texts vs) else Field.unlessNil name .texts vs
  | secrets vs => Field.always name (.list (vs.map .secret))
  | basicAuth v => Field.optional name BasicAuth.block v
  | tls v => Field.optional name TlsSettings.block v

/-- A setting of an exporter. -/
structure SettingSpec where
  key : String
  type : SettingType
  /-- The argument that it becomes, if it becomes one by itself. -/
  argument : Option String := some key
  /-- Whether a list without items is written too. -/
  always : Bool := false
  deriving DecidableEq

/-! ## Kinds -/

/-- The exporters. -/
inductive ExporterKind where
  | azure
  | dnsmasq
  | elasticsearch
  | github
  | memcached
  | mongodb
  | mssql
  | oracledb
  | postgres
  | snowflake
  | squid
  | vsphere
  deriving DecidableEq

namespace ExporterKind

/-- The exporters in the order in which they are converted. -/
def all : List ExporterKind := [
  azure, dnsmasq, elasticsearch, github, memcached, mongodb, mssql, oracledb, postgres, snowflake,
  squid, vsphere]

/-- The last segment of the component. -/
def name : ExporterKind → String
  | azure => "azure"
  | dnsmasq => "dnsmasq"
  | elasticsearch => "elasticsearch"
  | github => "github"
  | memcached => "memcached"
  | mongodb => "mongodb"
  | mssql => "mssql"
  | oracledb => "oracledb"
  | postgres => "postgres"
  | snowflake => "snowflake"
  | squid => "squid"
  | vsphere => "vsphere"

/-- The key in the configuration. -/
def key : ExporterKind → String
  | azure => "azure_exporter"
  | dnsmasq => "dnsmasq_exporter"
  | elasticsearch => "elasticsearch_exporter"
  | github => "github_exporter"
  | memcached => "memcached_exporter"
  | mongodb => "mongodb_exporter"
  | mssql => "mssql"
  | oracledb => "oracledb"
  | postgres => "postgres_exporter"
  | snowflake => "snowflake"
  | squid => "squid"
  | vsphere => "vsphere"

/-- The record that messages name. -/
def recordName : ExporterKind → String
  | azure => "AzureConfig"
  | dnsmasq => "DnsmasqConfig"
  | elasticsearch => "ElasticsearchConfig"
  | github => "GithubConfig"
  | memcached => "MemcachedConfig"
  | mongodb => "MongodbConfig"
  | mssql => "MssqlConfig"
  | oracledb => "OracledbConfig"
  | postgres => "PostgresConfig"
  | snowflake => "SnowflakeConfig"
  | squid => "SquidConfig"
  | vsphere => "VsphereConfig"

/-- The component. -/
def component (kind : ExporterKind) : ComponentKind :=
  .ofDotted ("prometheus.exporter." ++ kind.name)

/-- The settings, in the order of the arguments. -/
def specs : ExporterKind → List SettingSpec
  | azure => [
    { key := "subscriptions", type := .texts, always := true },
    { key := "resource_graph_query_filter", type := .text },
    { key := "resource_type", type := .text },
    { key := "metrics", type := .texts, always := true },
    { key := "metric_aggregations", type := .texts },
    { key := "timespan", type := .text },
    { key := "included_dimensions", type := .texts },
    { key := "included_resource_tags", type := .texts },
    { key := "metric_namespace", type := .text },
    { key := "metric_name_template", type := .text },
    { key := "metric_help_template", type := .text },
    { key := "azure_cloud_environment", type := .text },
    { key := "validate_dimensions", type := .flag },
    { key := "regions", type := .texts }]
  | dnsmasq => [
    { key := "dnsmasq_address", type := .text, argument := some "address" },
    { key := "leases_path", type := .text, argument := some "leases_file" },
    { key := "expose_leases", type := .flag }]
  | elasticsearch => [
    { key := "address", type := .text },
    { key := "timeout", type := .duration },
    { key := "all", type := .flag },
    { key := "node", type := .text },
    { key := "indices", type := .flag },
    { key := "indices_settings", type := .flag },
    { key := "cluster_settings", type := .flag },
    { key := "shards", type := .flag },
    { key := "include_aliases", type := .flag, argument := some "aliases" },
    { key := "snapshots", type := .flag },
    { key := "clusterinfo_interval", type := .duration },
    { key := "ca", type := .text },
    { key := "client_private_key", type := .text },
    { key := "client_cert", type := .text },
    { key := "ssl_skip_verify", type := .flag },
    { key := "data_stream", type := .flag },
    { key := "slm", type := .flag },
    { key := "basic_auth", type := .basicAuth }]
  | github => [
    { key := "api_url", type := .text },
    { key := "repositories", type := .texts },
    { key := "organizations", type := .texts },
    { key := "users", type := .texts },
    { key := "api_token", type := .secret },
    { key := "api_token_file", type := .text }]
  | memcached => [
    { key := "memcached_address", type := .text, argument := some "address" },
    { key := "timeout", type := .duration },
    { key := "tls_config", type := .tls }]
  | mongodb => [
    { key := "mongodb_uri", type := .secret },
    { key := "direct_connect", type := .flag },
    { key := "discovering_mode", type := .flag },
    { key := "tls_basic_auth_config_path", type := .text }]
  | mssql => [
    { key := "connection_string", type := .secret },
    { key := "max_idle_connections", type := .count },
    { key := "max_open_connections", type := .count },
    { key := "timeout", type := .duration }]
  | oracledb => [
    { key := "connection_string", type := .secret },
    { key := "max_idle_conns", type := .count },
    { key := "max_open_conns", type := .count },
    { key := "query_timeout", type := .count }]
  | postgres => [
    { key := "data_source_names", type := .secrets },
    { key := "disable_settings_metrics", type := .flag },
    { key := "disable_default_metrics", type := .flag },
    { key := "query_path", type := .text, argument := some "custom_queries_config_path" },
    { key := "autodiscover_databases", type := .flag, argument := none },
    { key := "include_databases", type := .texts, argument := none },
    { key := "exclude_databases", type := .texts, argument := none }]
  | snowflake => [
    { key := "account_name", type := .text },
    { key := "username", type := .text },
    { key := "password", type := .secret },
    { key := "role", type := .text },
    { key := "warehouse", type := .text }]
  | squid => [
    { key := "address", type := .text },
    { key := "username", type := .text },
    { key := "password", type := .secret }]
  | vsphere => [
    { key := "request_chunk_size", type := .count },
    { key := "collect_concurrency", type := .count },
    { key := "vsphere_url", type := .text },
    { key := "vsphere_user", type := .text },
    { key := "vsphere_password", type := .secret },
    { key := "discovery_interval", type := .duration },
    { key := "enable_exporter_metrics", type := .flag }]

end ExporterKind

/-! ## Values of settings -/

/-- The values of an exporter's settings by their keys. -/
abbrev ExporterSettings := String → Option Setting

namespace ExporterSettings

/-- No setting is set. -/
def none : ExporterSettings := fun _ => .none

/-- The settings with a value at `key`. -/
def set (key : String) (value : Setting) (s : ExporterSettings) : ExporterSettings :=
  fun k => if k = key then some value else s k

/-- The value of a setting. -/
def valueOf (s : ExporterSettings) (spec : SettingSpec) : Setting :=
  (s spec.key).getD spec.type.unset

/-- Whether the flag at `key` is on. -/
def isOn (s : ExporterSettings) (key : String) : Bool :=
  match s key with
  | some (.flag v) => v.getD false
  | _ => false

/-- The texts at `key`. -/
def textsAt (s : ExporterSettings) (key : String) : List String :=
  match s key with
  | some (.texts vs) => vs
  | _ => []

end ExporterSettings

namespace ExporterKind

/-- How the exporter finds databases by itself, if it does. -/
def autodiscovery (s : ExporterSettings) : Fields :=
  let on := s.isOn "autodiscover_databases"
  let allowed := s.textsAt "include_databases"
  let denied := s.textsAt "exclude_databases"
  Field.optional "autodiscovery" .blockOf (
    if on || !allowed.isEmpty || !denied.isEmpty then
      some (Field.always "enabled" (.bool on) ++
        Field.unlessNil "database_allowlist" .texts allowed ++
        Field.unlessNil "database_denylist" .texts denied)
    else none)

/-- The nested blocks that settings make together. -/
def blocks (kind : ExporterKind) (s : ExporterSettings) : Fields :=
  match kind with
  | postgres => autodiscovery s
  | _ => []

/-- The arguments of the component. -/
def arguments (kind : ExporterKind) (s : ExporterSettings) : Fields :=
  kind.specs.flatMap (fun spec =>
    match spec.argument with
    | some name => (s.valueOf spec).arguments name spec.always
    | none => []) ++ kind.blocks s

end ExporterKind

end AgentConvert.Agent
