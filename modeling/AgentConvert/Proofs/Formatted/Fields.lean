import AgentConvert.Proofs.Agent.Fields
import AgentConvert.Proofs.Collector.Fields
import AgentConvert.Proofs.Formatted.Names
import AgentConvert.Proofs.LogShipper.Fields

/-!
# Names of the fields of components

The fields of every component have names, as have those of its nested blocks. Keys that a user
chooses stand in objects only.
-/

namespace AgentConvert

open Argument

/-! ## Common settings -/

@[simp] theorem BasicAuth.isNamed_block (auth : BasicAuth) : auth.block.IsNamed := by
  simp (disch := decide) [block]

@[simp] theorem Authorization.isNamed_block (auth : Authorization) : auth.block.IsNamed := by
  simp (disch := decide) [block]

@[simp] theorem TlsSettings.isNamed_block (tls : TlsSettings) : tls.block.IsNamed := by
  simp (disch := decide) [block]

@[simp] theorem HttpClient.areNamed_arguments (client : HttpClient) :
    AreNamed client.arguments := by
  simp (disch := decide) [arguments]

@[simp] theorem RelabelRule.isNamed_blocks (rules : List RelabelRule) :
    (blocks rules).IsNamed :=
  isNamed_list rules fun r => by simp (disch := decide) [block]

@[simp] theorem TargetSource.isNamed_argument (source : TargetSource) :
    source.argument.IsNamed := by
  cases source <;> trivial

@[simp] theorem ServerSettings.areNamed_blockUnlessEmpty {name : String} (isEmpty : Bool)
    (fields : Fields) (h : isIdentifier name = true) :
    AreNamed (blockUnlessEmpty name isEmpty fields) ↔ (isEmpty = false → AreNamed fields) := by
  cases isEmpty <;> simp [blockUnlessEmpty, h]

@[simp] theorem ServerSettings.areNamed_arguments (s : ServerSettings) : AreNamed s.arguments := by
  simp (disch := decide) [arguments, httpFields, grpcFields]

/-- The fields of the `logging` block of an agent or a log shipper. -/
theorem ServerSettings.areNamed_logging? {s : ServerSettings} {fields : Fields}
    (h : s.logging? = some (.record fields)) : AreNamed fields := by
  simp only [logging?] at h
  split at h
  · exact absurd h (by simp)
  · obtain rfl := Argument.record.inj (Option.some.inj h)
    simp (disch := decide)

/-! ## Log shippers -/

namespace LogShipper

@[simp] theorem Client.areNamed_arguments (c : Client) : AreNamed c.arguments := by
  simp (disch := decide) [arguments]

theorem Stage.areNamed_fields (s : Stage) : AreNamed s.fields := by
  cases s <;> simp (disch := decide) [fields]

theorem Stage.isName_name (s : Stage) : IsName (dotted s.name) := by
  unfold name
  split <;> decide

@[simp] theorem Stage.isNamed_blocks (stages : List Stage) :
    (Argument.list (stages.map Stage.block)).IsNamed :=
  isNamed_list stages fun s => ⟨s.isName_name, s.areNamed_fields⟩

@[simp] theorem Outlet.areNamed_forwardTo (o : Outlet) : AreNamed o.forwardTo := by
  simp (disch := decide) [forwardTo]

@[simp] theorem Outlet.areNamed_relabelRules (o : Outlet) : AreNamed o.relabelRules := by
  simp (disch := decide) [relabelRules]

@[simp] theorem Subscription.areNamed_modeFields (s : Subscription) (mode : SubscriptionMode) :
    AreNamed (s.modeFields mode) := by
  cases mode <;> simp (disch := decide) [modeFields, sharedFields]

@[simp] theorem SyslogListener.isNamed_listener (l : SyslogListener) : l.listener.IsNamed := by
  simp (disch := decide) [listener]

@[simp] theorem areNamed_forwardToJob : AreNamed forwardToJob := by
  simp (disch := decide) [forwardToJob]

theorem ScrapeJob.areNamed_sources {around : Surroundings} {job : ScrapeJob} {label : String}
    {s : SourceBlock} (h : s ∈ job.sources around label) : AreNamed s.arguments := by
  simp only [sources, List.mem_filterMap, id_eq, exists_eq_right, List.mem_cons, List.not_mem_nil,
    or_false] at h
  rcases h with h | h | h | h | h | h | h
  · obtain ⟨g, -, hg⟩ := Option.bind_eq_some_iff.1 h.symm
    obtain ⟨mode, -, rfl⟩ := Option.map_eq_some_iff.1 hg
    simp [Subscription.block]
  · obtain ⟨g, -, rfl⟩ := Option.map_eq_some_iff.1 h.symm
    simp (disch := decide) [GelfListener.block]
  · obtain ⟨r, -, rfl⟩ := Option.map_eq_some_iff.1 h.symm
    simp (disch := decide) [PushReceiver.block]
  · obtain ⟨r, -, rfl⟩ := Option.map_eq_some_iff.1 h.symm
    simp (disch := decide) [PushReceiver.block]
  · obtain ⟨l, -, rfl⟩ := Option.map_eq_some_iff.1 h.symm
    simp (disch := decide) [SyslogListener.block]
  · obtain ⟨c, -, rfl⟩ := Option.map_eq_some_iff.1 h.symm
    simp (disch := decide) [CloudflareSource.block]
  · obtain ⟨e, -, rfl⟩ := Option.map_eq_some_iff.1 h.symm
    simp (disch := decide) [EventLogSource.block]

end LogShipper

/-! ## Agents -/

namespace Agent

theorem ScrapeJob.areNamed_discoveries {job : ScrapeJob} {d : Discovery}
    (h : d ∈ job.discoveries) : AreNamed d.arguments := by
  simp only [discoveries, listedTargets, List.mem_append, List.mem_map] at h
  rcases h with ((((h | ⟨d, -, rfl⟩) | ⟨d, -, rfl⟩) | ⟨d, -, rfl⟩) | ⟨d, -, rfl⟩) | ⟨d, -, rfl⟩
  · split at h
    · exact absurd h (by simp)
    · rw [List.mem_singleton] at h
      subst h
      simp (disch := decide) [Discovery.listed]
  · simp (disch := decide) [Discovery.dns, DnsDiscovery.arguments]
  · simp (disch := decide) [Discovery.http, HttpDiscovery.arguments]
  · simp (disch := decide) [Discovery.file, FileDiscovery.arguments]
  · simp (disch := decide) [Discovery.consul, ConsulDiscovery.arguments]
  · simp (disch := decide) [Discovery.ovhcloud, OvhcloudDiscovery.arguments]

@[simp] theorem Queue.isNamed_block (q : Queue) : q.block.IsNamed := by
  simp (disch := decide) [block]

@[simp] theorem Endpoint.isNamed_block (e : Endpoint) : e.block.IsNamed := by
  simp (disch := decide) [block]

theorem RemoteWrite.areNamed (endpoints : List Endpoint) (externalLabels : Dictionary String) :
    AreNamed (Field.unlessEmpty "external_labels" externalLabels ++
      Field.unlessNil "endpoint" (fun es => .list (es.map Endpoint.block)) endpoints) := by
  have hlist : (Argument.list (endpoints.map Endpoint.block)).IsNamed :=
    isNamed_list endpoints Endpoint.isNamed_block
  simp (disch := decide) [hlist]

@[simp] theorem ScrapeJob.areNamed_settings (defaults : MetricsDefaults) (job : ScrapeJob) :
    AreNamed (job.settings defaults) := by
  simp only [settings]
  split <;> simp (disch := decide)

theorem Setting.areNamed_arguments {name : String} (h : isIdentifier name = true) (always : Bool)
    (s : Setting) : AreNamed (s.arguments name always) := by
  cases s with
  | texts vs => cases always <;> simp [arguments, h]
  | secrets vs =>
    have hsecrets : (Argument.list (vs.map .secret)).IsNamed := isNamed_list vs isNamed_secret
    simp [arguments, h, hsecrets]
  | _ => simp [arguments, h]

/-- The arguments that settings of exporters become have names. -/
theorem ExporterKind.isIdentifier_specs (kind : ExporterKind) :
    ∀ spec ∈ kind.specs, ∀ name ∈ spec.argument, isIdentifier name = true := by
  cases kind <;> decide

theorem ExporterKind.areNamed_autodiscovery (s : ExporterSettings) :
    AreNamed (autodiscovery s) := by
  simp (disch := decide) only [autodiscovery, Field.areNamed_optional]
  intro fields h
  split at h
  · obtain rfl := Option.some.inj h
    simp (disch := decide)
  · exact absurd h (by simp)

theorem ExporterKind.areNamed_arguments (kind : ExporterKind) (s : ExporterSettings) :
    AreNamed (kind.arguments s) := by
  rw [arguments, areNamed_append]
  refine ⟨areNamed_flatMap fun spec hspec => ?_, ?_⟩
  · split
    · rename_i name hname
      exact Setting.areNamed_arguments (kind.isIdentifier_specs spec hspec name hname) _ _
    · trivial
  · unfold blocks
    split
    · exact areNamed_autodiscovery s
    · trivial

end Agent

/-! ## Collectors -/

/-- A body holds no names of attributes or blocks; the keys of its objects are arbitrary. -/
@[simp] theorem Json.isNamed_argument (j : Json) : j.argument.IsNamed :=
  isNamed_of_isValue (p := fun _ => True) _ j.isValue_argument

namespace Collector

variable {output : Argument}

@[simp] theorem areNamed_sizeField {name : String} (size : Option UInt64)
    (h : isIdentifier name = true) : AreNamed (sizeField name size) := by
  simp [sizeField, h]

@[simp] theorem ServerTls.isNamed_block (tls : ServerTls) : tls.block.IsNamed := by
  simp (disch := decide) [block]

@[simp] theorem GrpcServer.isNamed_block (g : GrpcServer) : g.block.IsNamed := by
  simp (disch := decide) [block]

@[simp] theorem Cors.isNamed_block (c : Cors) : c.block.IsNamed := by
  simp (disch := decide) [block]

@[simp] theorem HttpServer.isNamed_block (h : HttpServer) : h.block.IsNamed := by
  simp (disch := decide) [block]

@[simp] theorem StatementGroup.isNamed_blocks (groups : List StatementGroup) :
    (Argument.list (groups.map StatementGroup.block)).IsNamed :=
  isNamed_list groups fun g => by simp (disch := decide) [block]

@[simp] theorem AttributeAction.isNamed_blocks (actions : List AttributeAction) :
    (Argument.list (actions.map AttributeAction.block)).IsNamed :=
  isNamed_list actions fun a => by simp (disch := decide) [block]

@[simp] theorem ClientTls.isNamed_block (tls : ClientTls) : tls.block.IsNamed := by
  simp (disch := decide) [block]

@[simp] theorem SendingQueue.isNamed_block (q : SendingQueue) : q.block.IsNamed := by
  simp (disch := decide) [block]

@[simp] theorem RetryOnFailure.isNamed_block (r : RetryOnFailure) : r.block.IsNamed := by
  simp (disch := decide) [block]

/-- The fields of a component have names, if those of the block called `output` have. -/
theorem ComponentSettings.areNamed_arguments (s : ComponentSettings) (h : output.IsNamed) :
    AreNamed (s.arguments output) := by
  cases s with
  | otlpReceiver s => simp (disch := decide) [arguments, OtlpReceiver.arguments, h]
  | zipkinReceiver s => simp (disch := decide) [arguments, ZipkinReceiver.arguments, h]
  | batchProcessor s => simp (disch := decide) [arguments, BatchProcessor.arguments, h]
  | memoryLimiterProcessor s => simp (disch := decide) [arguments, MemoryLimiter.arguments, h]
  | transformProcessor s =>
    simp (disch := decide) [arguments, TransformProcessor.arguments,
      TransformProcessor.groupsField, h]
  | attributesProcessor s => simp (disch := decide) [arguments, AttributesProcessor.arguments, h]
  | otlpExporter s => simp (disch := decide) [arguments, OtlpExporter.arguments]
  | otlpHttpExporter s => simp (disch := decide) [arguments, OtlpHttpExporter.arguments]
  | debugExporter s => simp (disch := decide) [arguments, DebugExporter.arguments]

theorem Wiring.isNamed_output (w : Wiring) (id : InstanceId) (signals : List Signal) :
    (w.output id signals).IsNamed := by
  refine areNamed_flatMap fun signal _ => ?_
  cases signal <;> simp (disch := decide)

/-- The fields of the `logging` block of a collector. -/
theorem TelemetryLogs.areNamed_logging? {logs : TelemetryLogs} {fields : Fields}
    (h : logs.logging? = some (.record fields)) : AreNamed fields := by
  simp only [logging?] at h
  split at h
  · exact absurd h (by simp)
  · obtain rfl := Argument.record.inj (Option.some.inj h)
    simp (disch := decide)

end Collector

end AgentConvert
