import AgentConvert.Agent.Conversion
import AgentConvert.Loading
import AgentConvert.Proofs.Formatted.Result
import AgentConvert.Proofs.Secrecy.Integrations
import AgentConvert.Proofs.Secrecy.LogShipper

/-!
# Conversions and secrets

Agents that agree say the same and become documents that are alike (`Config.Agrees.convert`). An
embedded log shipper takes over the clients that all share, so it agrees as the configuration that
it stands for (`LogsInstance.Agrees.standalone`).

Nothing that is said about a configuration depends on the texts of its secrets, and its document
only holds these texts as they are, in the attributes that secrets feed
(`SourceConfig.convert_alike`).
-/

namespace AgentConvert.Agent

variable {R : Pairing}

/-! ## Logs -/

/-- Whether what embedded log shippers share is the same but for the texts of secrets. -/
inductive LogsDefaults.Agrees (R : Pairing) : LogsDefaults → LogsDefaults → Prop
  | intro (a : LogsDefaults) {clients : List LogShipper.Client}
    (hclients : List.Forall₂ (LogShipper.Client.Agrees R) a.clients clients) :
    Agrees R a { a with clients }

/-- Whether two embedded log shippers are the same but for the texts of secrets. -/
inductive LogsInstance.Agrees (R : Pairing) : LogsInstance → LogsInstance → Prop
  | intro (a : LogsInstance) {clients : List LogShipper.Client} {jobs : List LogShipper.ScrapeJob}
    (hclients : List.Forall₂ (LogShipper.Client.Agrees R) a.clients clients)
    (hjobs : List.Forall₂ (LogShipper.ScrapeJob.Agrees R) a.jobs jobs) :
    Agrees R a { a with clients, jobs }

/-- Whether two sections for logs are the same but for the texts of secrets. -/
inductive LogsSection.Agrees (R : Pairing) : LogsSection → LogsSection → Prop
  | intro (a : LogsSection) {defaults : LogsDefaults} {instances : List LogsInstance}
    (hdefaults : a.defaults.Agrees R defaults)
    (hinstances : List.Forall₂ (LogsInstance.Agrees R) a.instances instances) :
    Agrees R a { a with defaults, instances }

theorem LogsInstance.Agrees.standalone {s t : LogsSection} {a b : LogsInstance}
    (hs : s.Agrees R t) (h : a.Agrees R b) : (a.standalone s).Agrees R (b.standalone t) := by
  cases hs with
  | intro hdefaults _ =>
    cases hdefaults with
    | intro hshared =>
      cases h with
      | intro hclients hjobs =>
        exact .intro (a.standalone s) (forall₂_orShared hclients hshared) hjobs

theorem LogsSection.Agrees.convert {s t : LogsSection} (h : s.Agrees R t) :
    Labelling.Relates (Draft.Alike R) s.convert t.convert := by
  have hinstances : List.Forall₂ (fun a b => Labelling.Relates (Draft.Alike R)
      (LogsInstance.convert s a) (LogsInstance.convert t b)) s.instances t.instances := by
    cases id h with
    | intro _ hinstances =>
      refine hinstances.imp fun a b hab => ?_
      have hname : a.name = b.name := by
        cases hab
        rfl
      rw [LogsInstance.convert, LogsInstance.convert, ← hname]
      exact (hab.standalone h).convertJobs _
  exact Labelling.relates_bind (Labelling.relates_mapM hinstances)
    fun ds es hdrafts => Labelling.relates_pure (.concat hdrafts)

/-! ## Configurations -/

namespace Config

/-- Whether two configurations are the same but for the texts of secrets. -/
inductive Agrees (R : Pairing) : Config → Config → Prop
  | intro (a : Config) {metrics : MetricsSection} {integrations : IntegrationsSection}
    {logs : Option LogsSection} (hmetrics : a.metrics.Agrees R metrics)
    (hintegrations : a.integrations.Agrees R integrations)
    (hlogs : Option.Rel (LogsSection.Agrees R) a.logs logs) :
    Agrees R a { a with metrics, integrations, logs }

namespace Agrees

variable {a b : Config}

theorem metrics (h : a.Agrees R b) : a.metrics.Agrees R b.metrics := by
  cases h with
  | intro hmetrics _ _ => exact hmetrics

theorem integrations (h : a.Agrees R b) : a.integrations.Agrees R b.integrations := by
  cases h with
  | intro _ hintegrations _ => exact hintegrations

theorem logs (h : a.Agrees R b) : Option.Rel (LogsSection.Agrees R) a.logs b.logs := by
  cases h with
  | intro _ _ hlogs => exact hlogs

/-- What is said about endpoints is the same, if they agree. -/
theorem endpoints {as bs : List Endpoint} (h : List.Forall₂ (Endpoint.Agrees R) as bs) :
    as.flatMap Endpoint.findings = bs.flatMap Endpoint.findings :=
  flatMap_eq_of_forall₂ (h.imp fun _ _ h => h.findings)

/-- What is said about the instances is the same, if they agree. -/
theorem instances {as bs : List MetricsInstance}
    (h : List.Forall₂ (MetricsInstance.Agrees R) as bs) :
    (as.flatMap fun i => i.remoteWrite.flatMap Endpoint.findings ++ i.jobs.flatMap jobFindings) =
      bs.flatMap fun i =>
        i.remoteWrite.flatMap Endpoint.findings ++ i.jobs.flatMap jobFindings := by
  refine flatMap_eq_of_forall₂ (h.imp fun a b hab => ?_)
  cases hab with
  | intro hjobs hwrite =>
    have hfindings := flatMap_eq_of_forall₂ (f := jobFindings) (g := jobFindings)
      (hjobs.imp fun _ _ h => by cases h; rfl)
    exact congrArg₂ (· ++ ·) (endpoints hwrite) hfindings

theorem findings (h : a.Agrees R b) : a.findings = b.findings := by
  cases h with
  | intro hmetrics hintegrations _ =>
    unfold Config.findings
    generalize a.metrics = m at hmetrics ⊢
    generalize a.integrations = i at hintegrations ⊢
    cases hmetrics with
    | intro hdefaults hinstances =>
      cases hintegrations with
      | intro hwrite _ =>
        generalize m.defaults = d at hdefaults ⊢
        cases hdefaults with
        | intro hshared => rw [endpoints hwrite, endpoints hshared, instances hinstances]

theorem convert (htyped : a.integrations.IsTyped) (h : a.Agrees R b) :
    Labelling.Relates (Draft.Alike R) a.convert b.convert := by
  have hfindings := h.findings
  have hserver : a.server = b.server := by
    cases h
    rfl
  have hdefaults := h.metrics.defaults
  have hmetrics := h.metrics.instances.imp fun _ _ hij => hij.convert hdefaults
  have hlogs := h.logs
  rw [Config.convert, Config.convert, ← hfindings, ← hserver]
  refine Labelling.relates_bind (Labelling.relates_mapM hmetrics) fun ms ns hms => ?_
  refine Labelling.relates_bind (h.integrations.convert htyped hdefaults) fun d e hde => ?_
  generalize a.logs = s, b.logs = t at hlogs ⊢
  have hlogging : (Draft.ofOption (Draft.block (.ofDotted "logging") "")
      a.server.logging?).IsOpen :=
    Draft.isOpen_ofOption fun _ _ => Draft.isOpen_block (by decide)
  have hfront := Draft.Alike.append (Draft.Alike.append (Draft.Alike.append
    (.report (R := R) (rfl : a.findings = a.findings)) (.refl hlogging)) (.concat hms)) hde
  cases hlogs with
  | none => exact Labelling.relates_pure (hfront.append (.refl (Draft.isOpen_report [])))
  | some hst =>
    exact Labelling.relates_bind hst.convert fun l k hlk =>
      Labelling.relates_pure (hfront.append hlk)

end Agrees

end Config

end AgentConvert.Agent

namespace AgentConvert.SourceConfig

/-! ## Decoded configurations -/

variable {R : Pairing}

/-- Whether a configuration is what some value was decoded to. -/
def IsDecoded (config : SourceConfig) : Prop :=
  ∃ format place v, Decode.runAt place (decoder format) v = .ok config

theorem isDecoded_blank (format : SourceFormat) : (blank format).IsDecoded := by
  refine ⟨format, ⟨.sections, 0, ⟨[], 0⟩⟩, .null, ?_⟩
  cases format <;> rfl

theorem eq_ok_of_mapError {α ε ε' : Type} {f : ε → ε'} {x : Except ε α} {a : α}
    (h : x.mapError f = .ok a) : x = .ok a := by
  cases x with
  | error e => exact absurd h (by simp [Except.mapError])
  | ok b => exact congrArg Except.ok (Except.ok.inj h)

theorem isDecoded_of_ofText {format : SourceFormat} {text : String} {config : SourceConfig}
    (h : ofText format text = .ok config) : config.IsDecoded := by
  unfold ofText at h
  split at h
  · exact Except.ok.inj h ▸ isDecoded_blank format
  · split at h
    · exact absurd h (by simp)
    · exact ⟨format, _, _, eq_ok_of_mapError h⟩

/-- Configurations that are loaded are decoded. -/
theorem isDecoded_of_load {format : SourceFormat} {lookup? : Option (String → Option String)}
    {bytes : ByteArray} {config : SourceConfig} (h : load format lookup? bytes = .ok config) :
    config.IsDecoded := by
  unfold load at h
  cases hdecode : Text.Utf8.decode bytes with
  | error fault => exact absurd (hdecode ▸ h) (by simp [Except.mapError, bind, Except.bind])
  | ok text =>
    rw [hdecode] at h
    exact isDecoded_of_ofText h

/-- The integrations of a decoded agent have settings of the right types. -/
theorem IsDecoded.isTyped {config : Agent.Config} (h : (agent config).IsDecoded) :
    config.integrations.IsTyped := by
  obtain ⟨format, place, v, h⟩ := h
  have hgives : (decoder format v).Gives fun c => ∀ a, c = agent a → a.integrations.IsTyped := by
    cases format with
    | agent =>
      exact Decode.gives_map (Agent.Config.gives_decode v) fun c hc a ha =>
        agent.inj ha ▸ hc
    | logShipper => exact Decode.gives_map (Decode.gives_true _) fun _ _ _ ha => nomatch ha
    | collector => exact Decode.gives_map (Decode.gives_true _) fun _ _ _ ha => nomatch ha
  exact Decode.of_runAt hgives h config rfl

/-! ## Conversions -/

/-- Whether two configurations of agents or of log shippers are the same but for the texts of
secrets. -/
inductive Agrees (R : Pairing) : SourceConfig → SourceConfig → Prop
  | agent {a b : Agent.Config} (h : a.Agrees R b) : Agrees R (.agent a) (.agent b)
  | logShipper {a b : LogShipper.Config} (h : a.Agrees R b) :
    Agrees R (.logShipper a) (.logShipper b)

theorem Agrees.standalone {a b : SourceConfig} (ha : a.IsDecoded) (h : a.Agrees R b)
    (registry : Collector.Registry) :
    (a.standalone registry).Alike R (b.standalone registry) := by
  cases h with
  | agent h => exact (h.convert ha.isTyped .empty).1
  | logShipper h => exact (h.convert .empty).1

/-- Configurations that are the same but for the texts of secrets are converted with the same
findings, and to documents that are the same but for the attributes that secrets feed. What these
hold is related as the texts of the secrets are. As `R` may be any relation, it is these texts, as
they are. -/
theorem convert_alike (registry : Collector.Registry) {a b : SourceConfig} (ha : a.IsDecoded)
    (h : a.Agrees R b) :
    (a.convert registry).findings = (b.convert registry).findings ∧
    ∃ d e : Body, Format.Encodes (a.convert registry).document d ∧
      Format.Encodes (b.convert registry).document e ∧ Body.Alike R d e := by
  have halike := h.standalone ha registry
  refine ⟨?_, _, _, encodes_convert registry a, encodes_convert registry b, halike.document⟩
  rw [convert_eq, convert_eq]
  exact halike.findings

/-- An agent with one exporter, which shows its token to a server. -/
def tokenAgent (token : String) : SourceConfig :=
  agent { integrations := { integration := fun kind => if kind = .github then some {
    exporter := Agent.ExporterSettings.none.set "api_token" (.secret (some ⟨token⟩)) } else none } }

theorem isDecoded_tokenAgent : (tokenAgent "hunter2").IsDecoded := by
  let exporter : Value := .map [(.text "api_token", .text "hunter2")]
  exact ⟨.agent, ⟨.sections, 3, ⟨[], 0⟩⟩,
    .map [(.text "integrations", .map [(.text "github_exporter", exporter)])], rfl⟩

theorem tokenAgent_agrees {s t : String} (hempty : (s == "") = (t == ""))
    (h : R "api_token" s t) : (tokenAgent s).Agrees R (tokenAgent t) := by
  refine .agent (.intro _ (.intro _ (.intro _ .nil) .nil) (.intro _ .nil fun kind => ?_) .none)
  by_cases hkind : kind = .github
  · simp only [if_pos hkind]
    refine .some (.intro _ fun key => ?_)
    by_cases hkey : key = "api_token"
    · subst hkey
      exact .some (.secret (.some ⟨hempty, h⟩))
    · simp [Agent.ExporterSettings.set, Agent.ExporterSettings.none, hkey]
  · simp only [if_neg hkind]
    exact .none

theorem convert_alike_token :
    let r : Pairing := fun _ s t => s = "hunter2" ∧ t = "swordfish"
    let a := tokenAgent "hunter2"
    let b := tokenAgent "swordfish"
    a.IsDecoded ∧ a.Agrees r b ∧
      (a.convert .builtin).findings = (b.convert .builtin).findings ∧
      ∃ d e : Body, Format.Encodes (a.convert .builtin).document d ∧
        Format.Encodes (b.convert .builtin).document e ∧ Body.Alike r d e := by
  have hagrees := tokenAgent_agrees (R := fun _ s t => s = "hunter2" ∧ t = "swordfish")
    (by decide) ⟨rfl, rfl⟩
  exact ⟨isDecoded_tokenAgent, hagrees, convert_alike .builtin isDecoded_tokenAgent hagrees⟩

end AgentConvert.SourceConfig
