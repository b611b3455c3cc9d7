import AgentConvert.Proofs.Agent.Fields
import AgentConvert.Proofs.Secrecy.Metrics

/-!
# Integrations that differ in secrets

Where a secret of an exporter goes is a matter of the table of its settings
(`ExporterKind.specs_place`): secrets become attributes of their own keys, and nothing else does.
This holds of settings that have the types that the table gives them, as decoded settings have
(`IntegrationsSection.gives_decode`).
-/

namespace AgentConvert.Agent

open Argument

variable {R : Pairing}

/-! ## Settings -/

/-- Whether what a setting holds is secret, or has a secret in it. -/
def SettingType.HoldsSecrets (type : SettingType) : Prop :=
  type = .secret ∨ type = .secrets ∨ type = .basicAuth

instance : DecidablePred SettingType.HoldsSecrets := fun type =>
  inferInstanceAs (Decidable (type = .secret ∨ type = .secrets ∨ type = .basicAuth))

/-- Whether two values of the setting with this key are the same but for the texts of secrets. -/
inductive Setting.Agrees (R : Pairing) (key : String) : Setting → Setting → Prop
  | same (s : Setting) (h : ¬s.type.HoldsSecrets) : Agrees R key s s
  | secret {v w : Option Secret} (h : Option.Rel (Secret.Agrees (R key)) v w) :
    Agrees R key (.secret v) (.secret w)
  | secrets {vs ws : List Secret} (h : List.Forall₂ (Secret.Agrees (R key)) vs ws) :
    Agrees R key (.secrets vs) (.secrets ws)
  | basicAuth {v w : Option BasicAuth} (h : Option.Rel (BasicAuth.Agrees R) v w) :
    Agrees R key (.basicAuth v) (.basicAuth w)

theorem Setting.Agrees.unset (key : String) (type : SettingType) :
    Setting.Agrees R key type.unset type.unset := by
  cases type with
  | secret => exact .secret .none
  | secrets => exact .secrets .nil
  | basicAuth => exact .basicAuth .none
  | _ => exact .same _ (by decide)

/-- Whether a setting may become the argument of this name. Secrets become the one of their own key,
which is for secrets, and settings without secrets one that is not. -/
def SettingSpec.HasPlace (spec : SettingSpec) (name : String) : Prop :=
  (spec.type = .secret ∨ spec.type = .secrets → name = spec.key ∧ name ∈ secretAttributes) ∧
    (¬spec.type.HoldsSecrets → IsOpenName name)

instance (spec : SettingSpec) (name : String) : Decidable (spec.HasPlace name) :=
  inferInstanceAs (Decidable (_ ∧ _))

theorem ExporterKind.specs_place (kind : ExporterKind) :
    ∀ spec ∈ kind.specs, ∀ name ∈ spec.argument, spec.HasPlace name := by
  cases kind <;> decide +kernel

theorem Setting.areOpen_arguments {name : String} (hname : IsOpenName name) (always : Bool)
    {s : Setting} (h : ¬s.type.HoldsSecrets) : (s.arguments name always).AreOpen := by
  cases s with
  | secret _ | secrets _ | basicAuth _ => exact absurd h (by simp [type, SettingType.HoldsSecrets])
  | texts vs => cases always <;> simp [arguments, hname]
  | _ => simp [arguments, hname]

theorem Setting.Agrees.alike {spec : SettingSpec} {name : String} (hplace : spec.HasPlace name)
    {s t : Setting} (htype : s.type = spec.type) (h : s.Agrees R spec.key t) :
    Fields.Alike R (s.arguments name spec.always) (t.arguments name spec.always) := by
  cases h with
  | same _ hs =>
    have hopen := areOpen_arguments (hplace.2 (htype ▸ hs)) spec.always hs
    exact .of_areOpen (p := Special.Uses [] []) (areParts_arguments name spec.always s) hopen
  | secret hs =>
    obtain ⟨hkey, hname⟩ := hplace.1 (.inl htype.symm)
    exact .secret hname (hkey ▸ hs)
  | secrets hs =>
    obtain ⟨hkey, hname⟩ := hplace.1 (.inr htype.symm)
    exact .always (.secrets hname (hkey ▸ hs.imp fun _ _ h => h.text))
  | basicAuth hs => exact .optional BasicAuth.Agrees.alike hs

/-! ## Exporters -/

namespace ExporterSettings

/-- Whether the settings of two exporters are the same but for the texts of secrets. -/
def Agrees (R : Pairing) (s t : ExporterSettings) : Prop :=
  ∀ key, Option.Rel (Setting.Agrees R key) (s key) (t key)

namespace Agrees

variable {s t : ExporterSettings}

theorem valueOf (h : s.Agrees R t) (spec : SettingSpec) :
    (s.valueOf spec).Agrees R spec.key (t.valueOf spec) := by
  have hkey := h spec.key
  unfold ExporterSettings.valueOf
  generalize s spec.key = v, t spec.key = w at hkey ⊢
  cases hkey with
  | none => exact .unset spec.key spec.type
  | some h => exact h

theorem isOn (h : s.Agrees R t) (key : String) : s.isOn key = t.isOn key := by
  have hkey := h key
  unfold ExporterSettings.isOn
  generalize s key = v, t key = w at hkey ⊢
  cases hkey with
  | none => rfl
  | some h => cases h <;> rfl

theorem textsAt (h : s.Agrees R t) (key : String) : s.textsAt key = t.textsAt key := by
  have hkey := h key
  unfold ExporterSettings.textsAt
  generalize s key = v, t key = w at hkey ⊢
  cases hkey with
  | none => rfl
  | some h => cases h <;> rfl

end Agrees

end ExporterSettings

namespace ExporterKind

theorem areOpen_autodiscovery (s : ExporterSettings) : (autodiscovery s).AreOpen := by
  rw [autodiscovery, Field.areOpen_optional (by decide)]
  exact fun fields _ => takesName_blockOf fields

/-- No secret is among the settings that make blocks together. -/
theorem alike_blocks {s t : ExporterSettings} (kind : ExporterKind) (h : s.Agrees R t) :
    Fields.Alike R (kind.blocks s) (kind.blocks t) := by
  have hsame : autodiscovery s = autodiscovery t := by
    rw [autodiscovery, autodiscovery, h.isOn, h.textsAt, h.textsAt]
  have hparts : AreParts (Special.Uses [] []) (autodiscovery s) := areParts_autodiscovery s
  unfold blocks
  split
  · rw [← hsame]
    exact .of_areOpen hparts (areOpen_autodiscovery s)
  · exact .nil

theorem alike_arguments {s t : ExporterSettings} {kind : ExporterKind} (hs : s.IsTyped kind)
    (h : s.Agrees R t) : Fields.Alike R (kind.arguments s) (kind.arguments t) := by
  refine .append (.flatMap fun spec hspec => ?_) (kind.alike_blocks h)
  split
  · rename_i name hname
    exact (h.valueOf spec).alike (kind.specs_place spec hspec name hname) (hs spec hspec)
  · exact .nil

end ExporterKind

/-! ## Integrations -/

namespace Integration

/-- Whether two integrations are the same but for the texts of secrets. -/
inductive Agrees (R : Pairing) : Integration → Integration → Prop
  | intro (a : Integration) {exporter : ExporterSettings}
    (hexporter : a.exporter.Agrees R exporter) : Agrees R a { a with exporter }

namespace Agrees

variable {a b : Integration} {kind : ExporterKind} {defaults defaults' : MetricsDefaults}

theorem exporterDraft (htyped : a.exporter.IsTyped kind) (h : a.Agrees R b) (label : String) :
    (a.exporterDraft kind label).Alike R (b.exporterDraft kind label) := by
  cases h with
  | @intro exporter hexporter =>
    have hblock : (Draft.block kind.component label (.record (kind.arguments a.exporter))).Alike R
        (.block kind.component label (.record (kind.arguments exporter))) :=
      .block (p := Special.Uses [] []) (kind.areParts_arguments _) (kind.areParts_arguments _)
        (ExporterKind.alike_arguments htyped hexporter)
    exact .append (.append hblock (.report rfl)) (.refl (by simp +decide [Scrape.targetRules]))

/-- A scrape does not look at the exporter. -/
theorem scrapeDraft (h : a.Agrees R b) (hd : defaults.Agrees R defaults')
    (label writeLabel : String) :
    (a.scrapeDraft kind defaults label writeLabel).Alike R
      (b.scrapeDraft kind defaults' label writeLabel) := by
  cases h
  cases hd
  refine .append (.append (.report rfl) ?_) (.refl (by simp +decide [Scrape.metricRules]))
  exact Scrape.alike _ _ _ _ _ _ (fun _ => by simp) (fun _ => by simp) .same

theorem convert (htyped : a.exporter.IsTyped kind) (h : a.Agrees R b)
    (hd : defaults.Agrees R defaults') (scrape : Option Bool) (shared : Option String) :
    Labelling.Relates (fun x y => x.1.Alike R y.1 ∧ x.2 = y.2)
      (a.convert scrape defaults kind shared) (b.convert scrape defaults' kind shared) := by
  have hscraped : a.isScraped scrape = b.isScraped scrape := by
    cases h
    rfl
  rw [Integration.convert, Integration.convert, ← hscraped]
  refine Labelling.relates_bind (Labelling.relates_refl _) fun label _ hlabel => ?_
  subst hlabel
  have hexporter := h.exporterDraft htyped label
  split
  · refine Labelling.relates_bind (Labelling.relates_refl _) fun writeLabel _ hwrite => ?_
    subst hwrite
    exact Labelling.relates_pure ⟨hexporter.append (h.scrapeDraft hd label writeLabel), rfl⟩
  · exact Labelling.relates_pure ⟨hexporter, rfl⟩

end Agrees

end Integration

/-! ## The section -/

namespace IntegrationsSection

/-- Whether two sections are the same but for the texts of secrets. -/
inductive Agrees (R : Pairing) : IntegrationsSection → IntegrationsSection → Prop
  | intro (a : IntegrationsSection) {remoteWrite : List Endpoint}
    {integration : ExporterKind → Option Integration}
    (hwrite : List.Forall₂ (Endpoint.Agrees R) a.remoteWrite remoteWrite)
    (hintegration : ∀ kind,
      Option.Rel (Integration.Agrees R) (a.integration kind) (integration kind)) :
    Agrees R a { a with remoteWrite, integration }

/-- Whether two integrations are of one kind and agree, and the settings have their types. -/
inductive Paired (R : Pairing) : ExporterKind × Integration → ExporterKind × Integration → Prop
  | intro {kind : ExporterKind} {a b : Integration} (htyped : a.exporter.IsTyped kind)
    (h : a.Agrees R b) : Paired R (kind, a) (kind, b)

namespace Agrees

variable {a b : IntegrationsSection} {defaults defaults' : MetricsDefaults}

theorem active (htyped : a.IsTyped) (h : a.Agrees R b) :
    List.Forall₂ (Paired R) a.active b.active := by
  cases h with
  | @intro _ integration _ hintegration =>
    refine List.rel_filterMap (R := Eq) ?_ (List.forall₂_same.2 fun _ _ => rfl)
    rintro kind _ rfl
    have hkind := hintegration kind
    have htyped := htyped kind
    dsimp only
    generalize a.integration kind = v, integration kind = w at hkind htyped ⊢
    cases hkind with
    | none => exact .none
    | @some i j hij =>
      have henabled : i.common.enabled = j.common.enabled := by
        cases hij
        rfl
      rw [Option.bind_some, Option.bind_some, ← henabled]
      split
      · exact .none
      · exact .some (.intro (htyped i rfl) hij)

theorem endpoints (h : a.Agrees R b) (hd : defaults.Agrees R defaults') :
    List.Forall₂ (Endpoint.Agrees R) (a.endpoints defaults) (b.endpoints defaults') := by
  cases h with
  | intro hwrite _ =>
    cases hd with
    | intro hdefaults => exact forall₂_orShared hwrite hdefaults

end Agrees

/-- Integrations that agree are converted alike, and the shared block gets the same label. -/
theorem relates_convertActive {as bs : List (ExporterKind × Integration)}
    {defaults defaults' : MetricsDefaults} (h : List.Forall₂ (Paired R) as bs)
    (hd : defaults.Agrees R defaults') (scrape : Option Bool) (shared : Option String) :
    Labelling.Relates (fun x y => x.1.Alike R y.1 ∧ x.2 = y.2)
      (convertActive scrape defaults as shared) (convertActive scrape defaults' bs shared) := by
  induction h generalizing shared with
  | nil => exact Labelling.relates_pure ⟨.refl (Draft.isOpen_report []), rfl⟩
  | cons hab _ ih =>
    obtain ⟨htyped, hab⟩ := hab
    refine Labelling.relates_bind (hab.convert htyped hd scrape shared) ?_
    rintro ⟨d, shared⟩ ⟨e, _⟩ ⟨hfirst, rfl⟩
    refine Labelling.relates_bind (ih shared) ?_
    rintro ⟨ds, shared⟩ ⟨es, _⟩ ⟨hrest, rfl⟩
    exact Labelling.relates_pure ⟨hfirst.append hrest, rfl⟩

theorem Agrees.convert {a b : IntegrationsSection} {defaults defaults' : MetricsDefaults}
    (htyped : a.IsTyped) (h : a.Agrees R b) (hd : defaults.Agrees R defaults') :
    Labelling.Relates (Draft.Alike R) (a.convert defaults) (b.convert defaults') := by
  have hactive := h.active htyped
  have hendpoints := h.endpoints hd
  have hscrape : a.scrape = b.scrape := by
    cases h
    rfl
  rw [IntegrationsSection.convert, IntegrationsSection.convert, ← hscrape]
  refine Labelling.relates_bind (relates_convertActive hactive hd a.scrape none) ?_
  rintro ⟨d, shared⟩ ⟨e, _⟩ ⟨hde, rfl⟩
  have hwrite := RemoteWrite.alike_ofOption hendpoints shared defaults.externalLabels
  cases hd
  exact Labelling.relates_pure (hde.append hwrite)

end IntegrationsSection

end AgentConvert.Agent
