import AgentConvert.Proofs.References.Agent
import AgentConvert.Proofs.Secrecy.Settings

/-!
# Metrics that differ in secrets

The secrets of metrics stand in the ways to discover targets, in the clients that scrape and in the
endpoints that samples are written to. Jobs that agree find as many components that discover
targets, of the same kinds, so the labels and the references are the same
(`Agent.ScrapeJob.Agrees.convert`).
-/

namespace AgentConvert

open Argument

@[simp] theorem RelabelRule.takesName_blocks (rules : List RelabelRule) :
    (blocks rules).TakesName :=
  takesName_list_blocks (fun _ : RelabelRule => _) rules

@[simp] theorem TargetSource.takesName_argument (source : TargetSource) :
    source.argument.TakesName := by
  refine takesName_of_isValue (p := fun _ => True) ?_
  cases source with
  | listed ts => exact isValue_targets ts
  | exported path => exact (isValue_reference path).2 trivial
  | joined paths => exact ⟨rfl, isValue_references paths⟩

namespace Agent

variable {R : Pairing}

/-! ## Discovery -/

/-- Whether two servers that are asked for targets are the same but for the texts of secrets. -/
inductive HttpDiscovery.Agrees (R : Pairing) : HttpDiscovery → HttpDiscovery → Prop
  | intro (a : HttpDiscovery) {http : HttpClient} (hhttp : a.http.Agrees R http) :
    Agrees R a { a with http }

theorem HttpDiscovery.Agrees.alike {a b : HttpDiscovery} (h : a.Agrees R b) :
    Fields.Alike R a.arguments b.arguments := by
  cases h with
  | intro hhttp => exact .append .same hhttp.alike

/-- Whether two catalogs that are asked for targets are the same but for the texts of secrets. -/
inductive ConsulDiscovery.Agrees (R : Pairing) : ConsulDiscovery → ConsulDiscovery → Prop
  | intro (a : ConsulDiscovery) {token password : Option Secret} {http : HttpClient}
    (htoken : Option.Rel (Secret.Agrees (R "token")) a.token token)
    (hpassword : Option.Rel (Secret.Agrees (R "password")) a.password password)
    (hhttp : a.http.Agrees R http) : Agrees R a { a with token, password, http }

theorem ConsulDiscovery.Agrees.alike {a b : ConsulDiscovery} (h : a.Agrees R b) :
    Fields.Alike R a.arguments b.arguments := by
  cases h with
  | intro htoken hpassword hhttp =>
    -- field by field from behind, with the password and the token among settings
    refine .append ?_ hhttp.alike
    refine .append (.append (.append (.append (.append ?_ .same) .same) .same) .same) .same
    refine .append ?_ (.secret (by decide) hpassword)
    refine .append (.append (.append (.append (.append (.append ?_ .same) .same) .same) .same)
      .same) .same
    exact .append .same (.secret (by decide) htoken)

/-- Whether two hosting providers that are asked for targets are the same but for the texts of
secrets. -/
inductive OvhcloudDiscovery.Agrees (R : Pairing) : OvhcloudDiscovery → OvhcloudDiscovery → Prop
  | intro (a : OvhcloudDiscovery) {applicationSecret consumerKey : Option Secret}
    (hsecret : Option.Rel (Secret.Agrees (R "application_secret")) a.applicationSecret
      applicationSecret)
    (hkey : Option.Rel (Secret.Agrees (R "consumer_key")) a.consumerKey consumerKey) :
    Agrees R a { a with applicationSecret, consumerKey }

theorem OvhcloudDiscovery.Agrees.alike {a b : OvhcloudDiscovery} (h : a.Agrees R b) :
    Fields.Alike R a.arguments b.arguments := by
  cases h with
  | intro hsecret hkey =>
    have hendpoint : Fields.Alike R (Field.optional "endpoint" .text a.endpoint)
        (Field.optional "endpoint" .text a.endpoint) := by
      cases a.endpoint <;> exact .value (p := fun _ => True) (by decide) trivial
    refine .append (.append (.append (.append (.append hendpoint .same) ?_) ?_) .same) .same
    · exact .secret (by decide) hsecret
    · exact .secret (by decide) hkey

/-- Whether two components that discover targets are of one kind, say the same and become blocks
that are alike. -/
structure Discovery.Alike (R : Pairing) (d e : Discovery) : Prop where
  kind : d.kind = e.kind
  findings : d.findings = e.findings
  block : ∀ label, (Draft.block d.kind label (.record d.arguments)).Alike R
    (.block e.kind label (.record e.arguments))

/-- A component without secrets is alike itself. -/
theorem Discovery.Alike.same {d : Discovery} (h : d.kind.segments ∉ secretBlocks) :
    d.Alike R d :=
  ⟨rfl, rfl, fun _ => .refl (Draft.isOpen_block h)⟩

theorem Discovery.forall₂_same {α : Type} {f : α → Discovery}
    (h : ∀ a, (f a).kind.segments ∉ secretBlocks) (as : List α) :
    List.Forall₂ (Discovery.Alike R) (as.map f) (as.map f) := by
  refine List.forall₂_same.2 fun d hd => ?_
  obtain ⟨a, -, rfl⟩ := List.mem_map.1 hd
  exact .same (h a)

theorem Discovery.Alike.of_fields {kind : ComponentKind} {as bs : Fields} {ds es : Diagnostics}
    (hfindings : ds = es) (h : Fields.Alike R as bs)
    (hp : AreParts (Special.Uses [] []) as := by simp)
    (hq : AreParts (Special.Uses [] []) bs := by simp) :
    Discovery.Alike R ⟨kind, as, ds⟩ ⟨kind, bs, es⟩ :=
  ⟨rfl, hfindings, fun _ => .block hp hq h⟩

theorem HttpDiscovery.Agrees.discovery {a b : HttpDiscovery} (h : a.Agrees R b)
    (context : String) : (Discovery.http context a).Alike R (.http context b) := by
  have hfindings : a.http.findings context = b.http.findings context := by
    cases h with
    | intro hhttp => exact hhttp.findings context
  exact .of_fields hfindings h.alike

theorem ConsulDiscovery.Agrees.discovery {a b : ConsulDiscovery} (h : a.Agrees R b)
    (context : String) : (Discovery.consul context a).Alike R (.consul context b) := by
  have hfindings : a.http.findings context = b.http.findings context := by
    cases h with
    | intro _ _ hhttp => exact hhttp.findings context
  exact .of_fields hfindings h.alike

theorem OvhcloudDiscovery.Agrees.discovery {a b : OvhcloudDiscovery} (h : a.Agrees R b) :
    (Discovery.ovhcloud a).Alike R (.ovhcloud b) :=
  .of_fields rfl h.alike

/-! ## Jobs -/

namespace ScrapeJob

/-- Whether two jobs are the same but for the texts of secrets. -/
inductive Agrees (R : Pairing) : ScrapeJob → ScrapeJob → Prop
  | intro (a : ScrapeJob) {httpDiscovery : List HttpDiscovery} {consul : List ConsulDiscovery}
    {ovhcloud : List OvhcloudDiscovery} {http : HttpClient}
    (hdiscovery : List.Forall₂ (HttpDiscovery.Agrees R) a.httpDiscovery httpDiscovery)
    (hconsul : List.Forall₂ (ConsulDiscovery.Agrees R) a.consul consul)
    (hovhcloud : List.Forall₂ (OvhcloudDiscovery.Agrees R) a.ovhcloud ovhcloud)
    (hhttp : a.http.Agrees R http) : Agrees R a { a with httpDiscovery, consul, ovhcloud, http }

namespace Agrees

variable {a b : ScrapeJob}

/-- Jobs that agree discover their targets alike. -/
theorem discoveries (h : a.Agrees R b) :
    List.Forall₂ (Discovery.Alike R) a.discoveries b.discoveries := by
  have hstatic : (ComponentKind.ofDotted "discovery.static").segments ∉ secretBlocks := by decide
  have hdns : (ComponentKind.ofDotted "discovery.dns").segments ∉ secretBlocks := by decide
  have hfile : (ComponentKind.ofDotted "discovery.file").segments ∉ secretBlocks := by decide
  cases h with
  | intro hdiscovery hconsul hovhcloud _ =>
    have hlisted : List.Forall₂ (Discovery.Alike R) a.listedTargets a.listedTargets := by
      unfold listedTargets
      split
      · exact .nil
      · exact .cons (.same hstatic) .nil
    refine List.rel_append (List.rel_append (List.rel_append (List.rel_append (List.rel_append
      hlisted ?_) ?_) ?_) ?_) ?_
    · exact Discovery.forall₂_same (fun _ => hdns) a.dns
    · exact List.rel_map (fun _ _ h => h.discovery a.context) hdiscovery
    · exact Discovery.forall₂_same (fun _ => hfile) a.file
    · exact List.rel_map (fun _ _ h => h.discovery a.context) hconsul
    · exact List.rel_map (fun _ _ h => h.discovery) hovhcloud

/-- The components that discover targets get the same labels. -/
theorem labelDiscoveries (h : a.Agrees R b) (label : String) :
    Labelling.Relates Eq (ScrapeJob.labelDiscoveries label a.discoveries)
      (ScrapeJob.labelDiscoveries label b.discoveries) := by
  have hfresh : List.Forall₂ (fun d e : Discovery => Labelling.Relates Eq
      (Labelling.fresh d.kind.name label) (Labelling.fresh e.kind.name label))
      a.discoveries b.discoveries := h.discoveries.imp fun d e hde => by
    rw [hde.kind]
    exact Labelling.relates_refl _
  have hmapM := Labelling.relates_mapM hfresh
  rwa [List.forall₂_eq_eq_eq] at hmapM

theorem settings (h : a.Agrees R b) (defaults : MetricsDefaults) :
    Fields.Alike R (a.settings defaults) (b.settings defaults) := by
  have hparts : AreParts (Special.Uses [] []) (a.settings defaults) := a.areParts_settings defaults
  rw [ScrapeJob.settings, areParts_append] at hparts
  cases h with
  | intro _ _ _ hhttp =>
    refine .append (.of_areOpen hparts.1 ?_) hhttp.alike
    split <;> simp (disch := decide)

/-- What a job exports its targets through is the same. -/
theorem exports (h : a.Agrees R b) (labels : List String) :
    ((a.discoveries.zip labels).map fun (d, l) => d.kind.exportPath l "targets") =
      (b.discoveries.zip labels).map fun (d, l) => d.kind.exportPath l "targets" := by
  rw [← List.forall₂_eq_eq_eq]
  refine List.rel_map ?_ (forall₂_zip h.discoveries labels)
  rintro ⟨d, l⟩ ⟨e, _⟩ ⟨hde, rfl⟩
  show d.kind.exportPath l "targets" = e.kind.exportPath l "targets"
  rw [hde.kind]

/-- The components that discover the targets of jobs that agree are alike. -/
theorem found (h : a.Agrees R b) (labels : List String) :
    (Draft.concat ((a.discoveries.zip labels).map fun (d, l) =>
      .report d.findings ++ .block d.kind l (.record d.arguments))).Alike R
    (.concat ((b.discoveries.zip labels).map fun (d, l) =>
      .report d.findings ++ .block d.kind l (.record d.arguments))) := by
  refine .concat (List.rel_map ?_ (forall₂_zip h.discoveries labels))
  rintro ⟨d, l⟩ ⟨e, _⟩ ⟨hde, rfl⟩
  exact .append (.report hde.findings) (hde.block l)

end Agrees

end ScrapeJob

/-- Scrapes whose settings are alike are alike. -/
theorem Scrape.alike (label : String) (rules metricRules : List RelabelRule)
    (targets : TargetSource) (receivers : List String) (jobName : String) {s t : Fields}
    (hs : ∀ refs, AreParts (Special.Uses refs []) s)
    (ht : ∀ refs, AreParts (Special.Uses refs []) t) (h : Fields.Alike R s t) :
    (Draft.block kind label (arguments (relabelled label rules targets)
      (forwardTo label metricRules receivers) jobName s)).Alike R
    (.block kind label (arguments (relabelled label rules targets)
      (forwardTo label metricRules receivers) jobName t)) := by
  have hparts := areParts_scrape label rules metricRules targets receivers jobName (hs _)
  have hparts' := areParts_scrape label rules metricRules targets receivers jobName (ht _)
  refine .block hparts hparts' (.append (.of_areOpen ((areParts_append _ _).1 hparts).1 ?_) h)
  simp (disch := decide)

namespace ScrapeJob.Agrees

variable {a b : ScrapeJob}

theorem draft (h : a.Agrees R b) (defaults : MetricsDefaults) (receivers : List String)
    (label : String) (labels : List String) :
    (a.draft defaults receivers label labels).Alike R
      (b.draft defaults receivers label labels) := by
  have hfound := h.found labels
  have hexports := h.exports labels
  have hscrape := fun rules metricRules targets => Scrape.alike label rules metricRules targets
    receivers a.name (fun _ => a.areParts_settings defaults) (fun _ => b.areParts_settings defaults)
    (h.settings defaults)
  have hhttp : a.http.findings a.context = b.http.findings b.context := by
    cases h with
    | intro _ _ _ hhttp => exact hhttp.findings a.context
  unfold ScrapeJob.draft
  dsimp only
  rw [← hexports]
  -- what is said, the rules and the references do not depend on secrets
  cases h
  refine .append (.append (.append (.append (.append (.append (.report hhttp) hfound) ?_) ?_) ?_)
    (hscrape _ _ _)) ?_
  · exact .report rfl
  · exact .refl (by simp +decide [Scrape.targetRules])
  · exact .report rfl
  · exact .refl (by simp +decide [Scrape.metricRules])

theorem convert (h : a.Agrees R b) (labelBase : String) (defaults : MetricsDefaults)
    (receivers : List String) :
    Labelling.Relates (Draft.Alike R) (a.convert labelBase defaults receivers)
      (b.convert labelBase defaults receivers) := by
  have hname : a.name = b.name := by
    cases h
    rfl
  rw [ScrapeJob.convert, ScrapeJob.convert, ← hname]
  refine Labelling.relates_bind (Labelling.relates_refl _) fun label _ hlabel => ?_
  subst hlabel
  refine Labelling.relates_bind (h.labelDiscoveries label) fun labels _ hlabels => ?_
  subst hlabels
  exact Labelling.relates_pure (h.draft defaults receivers label labels)

end ScrapeJob.Agrees

/-! ## Remote write -/

@[simp] theorem Queue.takesName_block (q : Queue) : q.block.TakesName :=
  takesName_blockOf _

namespace Endpoint

/-- Whether two endpoints are the same but for the texts of secrets. -/
inductive Agrees (R : Pairing) : Endpoint → Endpoint → Prop
  | intro (a : Endpoint) {http : HttpClient} (hhttp : a.http.Agrees R http) :
    Agrees R a { a with http }

namespace Agrees

variable {a b : Endpoint} {name : String}

theorem alike (h : a.Agrees R b) : a.block.AlikeAs R name b.block := by
  cases h with
  | intro hhttp =>
    exact .blockOf (.append (.append (.append .same hhttp.alike) .same) .same)

theorem findings (h : a.Agrees R b) : a.findings = b.findings := by
  cases h with
  | intro hhttp => exact congrArg (_ ++ ·) (hhttp.findings a.context)

end Agrees

end Endpoint

theorem RemoteWrite.alike {as bs : List Endpoint} (h : List.Forall₂ (Endpoint.Agrees R) as bs)
    (label : String) (externalLabels : Dictionary String) :
    (draft label as externalLabels).Alike R (draft label bs externalLabels) := by
  have hrejections : (as.flatMap fun e => RelabelRule.rejections e.context e.writeRelabelRules) =
      bs.flatMap fun e => RelabelRule.rejections e.context e.writeRelabelRules :=
    flatMap_eq_of_forall₂ (h.imp fun _ _ h => by cases h; rfl)
  have hblocks : (Argument.list (as.map Endpoint.block)).AlikeAs R "endpoint"
      (.list (bs.map Endpoint.block)) :=
    .blocks (by decide) (List.rel_map (fun _ _ h => ⟨rfl, rfl, h.alike⟩) h)
  refine .append (.report hrejections) (.block (p := Special.Uses [] [])
    (RemoteWrite.areParts as externalLabels) (RemoteWrite.areParts bs externalLabels) ?_)
  exact .append .same (.unlessNil (isEmpty_of_forall₂ h) hblocks)

theorem RemoteWrite.alike_ofOption {as bs : List Endpoint}
    (h : List.Forall₂ (Endpoint.Agrees R) as bs) (label : Option String)
    (externalLabels : Dictionary String) :
    (Draft.ofOption (fun l => draft l as externalLabels) label).Alike R
      (.ofOption (fun l => draft l bs externalLabels) label) := by
  cases label with
  | none => exact .refl (Draft.isOpen_report [])
  | some l => exact alike h l externalLabels

/-! ## Instances -/

/-- Whether what holds for all metrics is the same but for the texts of secrets. -/
inductive MetricsDefaults.Agrees (R : Pairing) : MetricsDefaults → MetricsDefaults → Prop
  | intro (a : MetricsDefaults) {remoteWrite : List Endpoint}
    (hwrite : List.Forall₂ (Endpoint.Agrees R) a.remoteWrite remoteWrite) :
    Agrees R a { a with remoteWrite }

namespace MetricsInstance

/-- Whether two instances are the same but for the texts of secrets. -/
inductive Agrees (R : Pairing) : MetricsInstance → MetricsInstance → Prop
  | intro (a : MetricsInstance) {jobs : List ScrapeJob} {remoteWrite : List Endpoint}
    (hjobs : List.Forall₂ (ScrapeJob.Agrees R) a.jobs jobs)
    (hwrite : List.Forall₂ (Endpoint.Agrees R) a.remoteWrite remoteWrite) :
    Agrees R a { a with jobs, remoteWrite }

namespace Agrees

variable {a b : MetricsInstance} {defaults defaults' : MetricsDefaults}

theorem endpoints (h : a.Agrees R b) (hd : defaults.Agrees R defaults') :
    List.Forall₂ (Endpoint.Agrees R) (a.endpoints defaults) (b.endpoints defaults') := by
  cases h with
  | intro _ hwrite =>
    cases hd with
    | intro hdefaults => exact forall₂_orShared hwrite hdefaults

theorem writeLabel (h : a.Agrees R b) (hd : defaults.Agrees R defaults') :
    a.writeLabel defaults = b.writeLabel defaults' := by
  have hname : a.name = b.name := by
    cases h
    rfl
  rw [MetricsInstance.writeLabel, MetricsInstance.writeLabel,
    isEmpty_of_forall₂ (h.endpoints hd), hname]

theorem convert (h : a.Agrees R b) (hd : defaults.Agrees R defaults') :
    Labelling.Relates (Draft.Alike R) (a.convert defaults) (b.convert defaults') := by
  have hendpoints := h.endpoints hd
  rw [MetricsInstance.convert, MetricsInstance.convert, ← h.writeLabel hd]
  refine Labelling.relates_bind (Labelling.relates_refl _) fun label _ hlabel => ?_
  subst hlabel
  have hwrite := RemoteWrite.alike_ofOption hendpoints label
  cases hd
  cases h with
  | intro hjobs _ =>
    refine Labelling.relates_bind (Labelling.relates_mapM (hjobs.imp fun _ _ h => ?_))
      fun ds es hdrafts => Labelling.relates_pure (.append (.concat hdrafts) (hwrite _))
    exact h.convert a.name defaults _

end Agrees

end MetricsInstance

/-- Whether two sections for metrics are the same but for the texts of secrets. -/
inductive MetricsSection.Agrees (R : Pairing) : MetricsSection → MetricsSection → Prop
  | intro (a : MetricsSection) {defaults : MetricsDefaults} {instances : List MetricsInstance}
    (hdefaults : a.defaults.Agrees R defaults)
    (hinstances : List.Forall₂ (MetricsInstance.Agrees R) a.instances instances) :
    Agrees R a { a with defaults, instances }

theorem MetricsSection.Agrees.defaults {a b : MetricsSection} (h : a.Agrees R b) :
    a.defaults.Agrees R b.defaults := by
  cases h with
  | intro hdefaults _ => exact hdefaults

theorem MetricsSection.Agrees.instances {a b : MetricsSection} (h : a.Agrees R b) :
    List.Forall₂ (MetricsInstance.Agrees R) a.instances b.instances := by
  cases h with
  | intro _ hinstances => exact hinstances

end Agent

end AgentConvert
