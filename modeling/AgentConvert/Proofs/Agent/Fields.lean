import AgentConvert.Agent.Conversion
import AgentConvert.Proofs.Decoding
import AgentConvert.Proofs.Settings.Fields
import Mathlib.Data.List.Nodup

/-!
# Settings and fields of an agent's components

The settings of an exporter that were decoded have the types that the table gives them: each key of
the table has one type (`ExporterKind.nodup_keys`), and what is decoded under it has this type. So
this holds of all integrations of a decoded agent (`Config.gives_decode`).

The arguments of every component that an agent becomes can stand in a block. Only a scrape and the
rules around it hold references: those of their targets and receivers.
-/

namespace AgentConvert.Agent

open Decode

/-! ## Settings -/

/-- What a setting holds. -/
def Setting.type : Setting → SettingType
  | text _ => .text
  | flag _ => .flag
  | count _ => .count
  | duration _ => .duration
  | secret _ => .secret
  | texts _ => .texts
  | secrets _ => .secrets
  | basicAuth _ => .basicAuth
  | tls _ => .tls

theorem SettingType.type_unset (type : SettingType) : type.unset.type = type := by
  cases type <;> rfl

theorem SettingType.gives_decode (type : SettingType) (v : Value) :
    (type.decode v).Gives fun s => s.type = type := by
  cases type <;> exact gives_map (gives_true _) fun _ _ => rfl

/-! ## Exporters -/

theorem ExporterKind.nodup_keys (kind : ExporterKind) : (kind.specs.map SettingSpec.key).Nodup := by
  cases kind <;> decide

namespace ExporterSettings

variable {kind : ExporterKind}

/-- Whether every setting of the exporter has the type that the table gives it. -/
def IsTyped (kind : ExporterKind) (s : ExporterSettings) : Prop :=
  ∀ spec ∈ kind.specs, (s.valueOf spec).type = spec.type

theorem isTyped_none : IsTyped kind none :=
  fun spec _ => spec.type.type_unset

theorem IsTyped.set {s : ExporterSettings} (h : s.IsTyped kind) {spec : SettingSpec}
    (hspec : spec ∈ kind.specs) {value : Setting} (hvalue : value.type = spec.type) :
    (s.set spec.key value).IsTyped kind := by
  intro other hother
  by_cases hkey : other.key = spec.key
  · obtain rfl := List.inj_on_of_nodup_map kind.nodup_keys hother hspec hkey
    simpa [valueOf, ExporterSettings.set] using hvalue
  · simpa [valueOf, ExporterSettings.set, hkey] using h other hother

end ExporterSettings

/-! ## Integrations -/

theorem Integration.gives_decode (kind : ExporterKind) (v : Value) :
    ((record kind).decode v).Gives fun i => i.exporter.IsTyped kind := by
  refine OpenRecord.gives_settings ExporterSettings.isTyped_none ?_ ?_ (by simp [record]) v
  · refine List.forall_mem_map.2 fun spec hspec v => ?_
    exact .of (spec.type.gives_decode v) fun value hvalue i hi => hi.set hspec hvalue
  · exact List.forall_mem_map.2 fun f _ v => .inside fun _ _ hi => hi

namespace IntegrationsSection

/-- Whether the settings of all exporters have the types that the tables give them. -/
def IsTyped (s : IntegrationsSection) : Prop :=
  ∀ kind, ∀ i ∈ s.integration kind, i.exporter.IsTyped kind

theorem keepsFrom_integrationField (kind : ExporterKind) (v : Value) :
    (integrationField kind).KeepsFrom IsTyped v := by
  refine .of (gives_optional_of (Integration.gives_decode kind) v) fun i hi s hs k => ?_
  by_cases hk : k = kind
  · subst hk
    simpa using hi
  · simpa [hk] using hs k

theorem gives_decode (v : Value) : (record.decode v).Gives IsTyped := by
  refine OpenRecord.gives_settings (by simp [record, IsTyped]) ?_ (by simp [record]) ?_ v
  · simp only [record, List.forall_mem_append, List.forall_mem_cons, List.forall_mem_map]
    refine ⟨⟨fun _ => .aside fun _ _ h => h, fun _ => .aside fun _ _ h => h, by simp⟩, ?_⟩
    exact fun kind _ => keepsFrom_integrationField kind
  · rintro keep ⟨⟩ others s hs
    exact hs

end IntegrationsSection

/-! ## Agents -/

theorem Config.gives_decode (v : Value) :
    (record.decode v).Gives fun config => config.integrations.IsTyped := by
  refine Record.gives_settings (by simp [record, IntegrationsSection.IsTyped]) ?_ v
  simp only [record, List.forall_mem_cons]
  refine ⟨fun _ => .aside fun _ _ h => h, fun _ => .aside fun _ _ h => h, fun v => ?_,
    fun _ => .aside fun _ _ h => h, fun _ => .aside fun _ _ h => h, fun _ => .aside fun _ _ h => h,
    by simp⟩
  exact .of (IntegrationsSection.gives_decode v) fun _ h _ _ => h

end AgentConvert.Agent

namespace AgentConvert.Agent

open Argument

/-! ## Fields of discovery -/

variable {refs : List String} {holes : List Placeholder}

@[simp] theorem DnsDiscovery.areParts_arguments (d : DnsDiscovery) :
    AreParts (Special.Uses refs holes) d.arguments := by
  simp [arguments]

@[simp] theorem HttpDiscovery.areParts_arguments (d : HttpDiscovery) :
    AreParts (Special.Uses refs holes) d.arguments := by
  simp [arguments]

@[simp] theorem FileDiscovery.areParts_arguments (d : FileDiscovery) :
    AreParts (Special.Uses refs holes) d.arguments := by
  simp [arguments]

@[simp] theorem ConsulDiscovery.areParts_arguments (d : ConsulDiscovery) :
    AreParts (Special.Uses refs holes) d.arguments := by
  simp [arguments]

@[simp] theorem OvhcloudDiscovery.areParts_arguments (d : OvhcloudDiscovery) :
    AreParts (Special.Uses refs holes) d.arguments := by
  simp [arguments]

/-- No component that discovers targets refers to anything. -/
theorem ScrapeJob.areParts_discoveries {job : ScrapeJob} {d : Discovery}
    (h : d ∈ job.discoveries) : AreParts (Special.Uses refs holes) d.arguments := by
  simp only [discoveries, listedTargets, List.mem_append, List.mem_map] at h
  rcases h with ((((h | ⟨d, -, rfl⟩) | ⟨d, -, rfl⟩) | ⟨d, -, rfl⟩) | ⟨d, -, rfl⟩) | ⟨d, -, rfl⟩
  · split at h
    · exact absurd h (by simp)
    · rw [List.mem_singleton] at h
      subst h
      simp [Discovery.listed]
  · exact d.areParts_arguments
  · exact d.areParts_arguments
  · exact d.areParts_arguments
  · exact d.areParts_arguments
  · exact d.areParts_arguments

/-! ## Remote write -/

@[simp] theorem Queue.isPart_block (q : Queue) : q.block.IsPart (Special.Uses refs holes) := by
  simp [block]

@[simp] theorem Endpoint.isPart_block (e : Endpoint) :
    e.block.IsPart (Special.Uses refs holes) := by
  simp [block]

/-- The fields of the block that writes samples. -/
theorem RemoteWrite.areParts (endpoints : List Endpoint) (externalLabels : Dictionary String) :
    AreParts (Special.Uses refs holes) (Field.unlessEmpty "external_labels" externalLabels ++
      Field.unlessNil "endpoint" (fun es => .list (es.map Endpoint.block)) endpoints) := by
  have hlist : (Argument.list (endpoints.map Endpoint.block)).IsPart (Special.Uses refs holes) :=
    isPart_list_blocks endpoints fun e => ⟨rfl, e.isPart_block⟩
  simp [hlist]

/-! ## Scrapes -/

@[simp] theorem ScrapeJob.areParts_settings (defaults : MetricsDefaults) (job : ScrapeJob) :
    AreParts (Special.Uses refs holes) (job.settings defaults) := by
  have hparams : (Argument.record (job.params.entries.map fun e => (e.1, .texts e.2))).IsPart
      (Special.Uses refs holes) := by
    refine (areFieldValues_iff _).2 fun e he => ?_
    obtain ⟨l, -, rfl⟩ := List.mem_map.1 he
    refine (areValues_iff _).2 fun a ha => ?_
    obtain ⟨s, -, rfl⟩ := List.mem_map.1 ha
    trivial
  simp only [settings]
  split <;> simp [hparams]

/-! ## Fields of exporters -/

theorem Setting.areParts_arguments (name : String) (always : Bool) (s : Setting) :
    AreParts (Special.Uses refs holes) (s.arguments name always) := by
  cases s with
  | texts vs => cases always <;> simp [arguments]
  | secrets vs =>
    have hsecrets : (Argument.list (vs.map .secret)).IsPart (Special.Uses refs holes) := by
      refine .inl ((areValues_iff _).2 fun a ha => ?_)
      obtain ⟨s, -, rfl⟩ := List.mem_map.1 ha
      exact ⟨⟨_, rfl⟩, trivial⟩
    simp [arguments, hsecrets]
  | _ => simp [arguments]

theorem ExporterKind.areParts_autodiscovery (s : ExporterSettings) :
    AreParts (Special.Uses refs holes) (autodiscovery s) := by
  simp only [autodiscovery, Field.areParts_optional]
  intro fields h
  split at h
  · obtain rfl := Option.some.inj h
    simp
  · exact absurd h (by simp)

theorem ExporterKind.areParts_arguments (kind : ExporterKind) (s : ExporterSettings) :
    AreParts (Special.Uses refs holes) (kind.arguments s) := by
  rw [arguments, areParts_append]
  refine ⟨areParts_flatMap fun spec _ => ?_, ?_⟩
  · split
    · exact Setting.areParts_arguments ..
    · trivial
  · unfold blocks
    split
    · exact areParts_autodiscovery s
    · trivial

end AgentConvert.Agent
