import AgentConvert.Proofs.Collector.Document
import AgentConvert.Proofs.Formatted.Result
import Mathlib.Data.List.Nodup

/-!
# Pipelines in another order

The order of the pipelines decides in which order instances are visited. If no two accepted
instances want the same label, nothing else depends on it: every base is its own label
(`Config.labelled_of_distinct`), the instances are the same, and what follows an instance is the
same in another order (`Config.sameButForOrder_wired`). So the document has the same blocks in
another order, and these refer to the same inputs in another order (`Config.convert_withPipelines`).
-/

namespace AgentConvert

/-! ## Documents -/

/-- Whether two statements of an `output` block name the same inputs for a signal, in any order. -/
inductive Statement.SendsAlike : Statement → Statement → Prop
  | intro (signal : Collector.Signal) {as bs : List (List String)} (h : as.Perm bs) :
    SendsAlike (.attribute signal.name (.array (as.map .path)))
      (.attribute signal.name (.array (bs.map .path)))

/-- Whether two statements of a block are the same, or its `output` blocks with the same inputs. -/
inductive Statement.OutputsAlike : Statement → Statement → Prop
  | same (s : Statement) : OutputsAlike s s
  | output {a b : Body} (h : List.Forall₂ Statement.SendsAlike a b) :
    OutputsAlike (.block ["output"] none a) (.block ["output"] none b)

/-- Whether two blocks are the same but for the order of the references in their `output` blocks. -/
inductive Block.WiredAlike : Block → Block → Prop
  | intro (name : List String) (label : Option String) {a b : Body}
    (h : List.Forall₂ Statement.OutputsAlike a b) : WiredAlike ⟨name, label, a⟩ ⟨name, label, b⟩

theorem Block.WiredAlike.refl (b : Block) : b.WiredAlike b :=
  .intro b.name b.label (List.forall₂_same.2 fun s _ => .same s)

/-- Whether two documents have the same blocks in some order, but for the order of the references in
their `output` blocks. -/
def Body.SameButForOrder (a b : Body) : Prop :=
  ∃ as bs cs : List Block, a = as.map Block.statement ∧ b = bs.map Block.statement ∧
    List.Forall₂ Block.WiredAlike as cs ∧ cs.Perm bs

namespace Collector

/-! ## Wirings -/

/-- Statements that name the same inputs for each signal. -/
theorem sendsAlike_outputBody {as bs : Signal → List (List String)}
    (h : ∀ signal, (as signal).Perm (bs signal)) :
    List.Forall₂ Statement.SendsAlike (outputBody fun signal => (as signal).map .path)
      (outputBody fun signal => (bs signal).map .path) := by
  refine List.rel_flatMap (R := Eq) (List.forall₂_same.2 fun _ _ => rfl) ?_
  rintro signal _ rfl
  show List.Forall₂ _ (if (as signal).map Expr.path = [] then [] else _)
    (if (bs signal).map Expr.path = [] then [] else _)
  by_cases has : as signal = []
  · have hbs : bs signal = [] := by simpa [has] using h signal
    simp [has, hbs]
  · have hbs : bs signal ≠ [] := fun hbs => has (by simpa [hbs] using h signal)
    rw [if_neg (by simpa using has), if_neg (by simpa using hbs)]
    exact .cons (.intro signal (h signal)) .nil

/-- Whether two wirings have the same instances, and lead from each of them to the same ones, in any
order. -/
structure Wiring.SameButForOrder (w w' : Wiring) : Prop where
  downstream : ∀ id signal, (w.graph.downstream id signal).Perm (w'.graph.downstream id signal)
  instance? : ∀ id, w.instance? id = w'.instance? id

namespace Wiring.SameButForOrder

variable {w w' : Wiring} (h : w.SameButForOrder w')

include h

theorem next (id : InstanceId) (signal : Signal) : (w.next id signal).Perm (w'.next id signal) := by
  rw [Wiring.next, Wiring.next]
  simp only [h.instance?]
  exact (h.downstream id signal).filterMap _

theorem unwired (id : InstanceId) (signal : Signal) :
    Converter.unwired w id signal = Converter.unwired w' id signal := by
  rw [Converter.unwired, Converter.unwired, (h.downstream id signal).isEmpty_eq]

/-- The same is reported about an instance. -/
theorem report (a : Accepted) (label : String) : a.report w label = a.report w' label := by
  have hlosses : Converter.losses w a.id a.settings = Converter.losses w' a.id a.settings := by
    cases a.settings with
    | zipkinReceiver s => exact congrArg₂ (· ++ ·) (h.unwired ..) (h.unwired ..)
    | _ => rfl
  rw [Accepted.report, Accepted.report, hlosses]

/-- An instance has the same block but for the order of the references. -/
theorem block (a : Accepted) (label : String) :
    (a.block w label).WiredAlike (a.block w' label) := by
  by_cases hcls : a.kind.cls = .exporter
  · have hsame : a.block w label = a.block w' label := by
      obtain ⟨id, settings⟩ := a
      cases settings with
      | otlpExporter s | otlpHttpExporter s | debugExporter s => rfl
      | _ => cases hcls
    exact hsame ▸ .refl _
  · obtain ⟨own, -, hbody⟩ := Accepted.body_block hcls
    let paths (v : Wiring) (signal : Signal) : List (List String) :=
      (if a.settings.signals.contains signal then v.next a.id signal else []).map dotted
    have hsent : ∀ v : Wiring, a.sent v = fun signal => (paths v signal).map .path := by
      intro v
      funext signal
      rw [List.map_map]
      rfl
    have hperm : ∀ signal, (paths w signal).Perm (paths w' signal) := by
      intro signal
      refine List.Perm.map _ ?_
      split
      · exact h.next a.id signal
      · exact .refl _
    refine .intro a.kind.component.segments (some label) ?_
    show List.Forall₂ _ (a.block w label).body (a.block w' label).body
    rw [hbody, hbody, hsent, hsent]
    refine List.rel_append (List.forall₂_same.2 fun s _ => .same s) (.cons (.output ?_) .nil)
    exact sendsAlike_outputBody hperm

end Wiring.SameButForOrder

/-! ## Labels -/

/-- The base of the label of an instance, made an identifier. -/
def Accepted.base (a : Accepted) : String := sanitize (ComponentId.ofText a.id.name).labelBase

namespace Config

variable {registry : Registry} {config : Config}

/-- Whether no two accepted instances of one kind of block have the same base for their labels. -/
def HasDistinctBases (registry : Registry) (config : Config) : Prop :=
  ∀ a ∈ config.accepted registry, ∀ b ∈ config.accepted registry,
    a.kind.component = b.kind.component → a.base = b.base → a.id = b.id

instance (registry : Registry) (config : Config) : Decidable (config.HasDistinctBases registry) :=
  inferInstanceAs (Decidable (∀ a ∈ config.accepted registry, ∀ b ∈ config.accepted registry,
    a.kind.component = b.kind.component → a.base = b.base → a.id = b.id))

/-- Bases that are distinct are the labels. -/
theorem labelled_of_distinct (h : config.HasDistinctBases registry) :
    config.labelled registry = (config.accepted registry).map fun a => (a, a.base) := by
  have hnodup :
      ((config.accepted registry).map fun a => (a.kind.component.name, a.base)).Nodup := by
    refine List.Nodup.map_on (fun a ha b hb hsame => ?_) (nodup_accepted registry config).of_map
    obtain ⟨hname, hbase⟩ := Prod.mk.inj hsame
    have hkind :=
      ComponentKind.eq_of_name_eq a.kind.isNamed_component b.kind.isNamed_component hname
    have hid : a.id = b.id := h a ha b hb hkind hbase
    exact List.inj_on_of_nodup_map (nodup_accepted registry config) ha hb hid
  have hlabels : config.labels registry = (config.accepted registry).map Accepted.base :=
    Labelling.mapM_fresh_of_nodup (fun a : Accepted => a.kind.component.name)
      (fun a => (ComponentId.ofText a.id.name).labelBase) hnodup
      fun _ _ htaken => absurd htaken List.not_mem_nil
  rw [labelled, hlabels, List.map_prod_left_eq_zip]

/-! ## Configurations -/

/-- The configuration with other pipelines. -/
def withPipelines (config : Config) (pipelines : KeyedList Pipeline) : Config :=
  { config with service := { config.service with pipelines } }

section

variable {pipelines : KeyedList Pipeline}
  (hperm : pipelines.entries.Perm config.service.pipelines.entries)

include hperm

theorem signalPipelines_withPipelines :
    (config.withPipelines pipelines).signalPipelines.Perm config.signalPipelines :=
  hperm.filterMap _

theorem members_withPipelines : (config.withPipelines pipelines).members.Perm config.members := by
  refine (List.perm_ext_iff_of_nodup (nodup_eraseDups _) (nodup_eraseDups _)).2 fun id => ?_
  rw [List.mem_eraseDups, List.mem_eraseDups]
  exact ((signalPipelines_withPipelines hperm).flatMap_right _).mem_iff

theorem fates_withPipelines (registry : Registry) :
    ((config.withPipelines pipelines).fates registry).Perm (config.fates registry) :=
  (members_withPipelines hperm).filterMap _

theorem accepted_withPipelines (registry : Registry) :
    ((config.withPipelines pipelines).accepted registry).Perm (config.accepted registry) :=
  (fates_withPipelines hperm registry).filterMap _

theorem followers_withPipelines (id : InstanceId) (signal : Signal) :
    ((config.withPipelines pipelines).followers id signal).Perm (config.followers id signal) := by
  refine (List.perm_ext_iff_of_nodup nodup_followers nodup_followers).2 fun target => ?_
  rw [mem_followers, mem_followers]
  refine exists_congr fun p => and_congr_left' ?_
  exact (signalPipelines_withPipelines hperm).mem_iff

theorem planFindings_withPipelines :
    (config.withPipelines pipelines).planFindings.Perm config.planFindings := by
  have hunused : (config.withPipelines pipelines).unused = config.unused := by
    funext cls
    have hmembers : ∀ id, (config.withPipelines pipelines).members.contains id =
        config.members.contains id := fun id => by
      rw [Bool.eq_iff_iff, List.contains_iff_mem, List.contains_iff_mem]
      exact (members_withPipelines hperm).mem_iff
    rw [unused, unused]
    simp only [hmembers]
    rfl
  rw [planFindings, planFindings, hunused]
  exact (((hperm.flatMap_right _).append_right _).append_right _).append_right _

theorem labelled_withPipelines (h : config.HasDistinctBases registry) :
    ((config.withPipelines pipelines).labelled registry).Perm (config.labelled registry) := by
  have haccepted := accepted_withPipelines hperm registry
  have h' : (config.withPipelines pipelines).HasDistinctBases registry := fun a ha b hb =>
    h a (haccepted.mem_iff.1 ha) b (haccepted.mem_iff.1 hb)
  rw [labelled_of_distinct h, labelled_of_distinct h']
  exact haccepted.map _

/-- Instances lead to the same instances, in some order. -/
theorem sameButForOrder_wired (h : config.HasDistinctBases registry) :
    ((config.withPipelines pipelines).wired registry).SameButForOrder (config.wired registry) := by
  refine ⟨fun id signal => ?_, fun id => Option.ext fun r => ?_⟩
  · rw [downstream_wired, downstream_wired]
    exact followers_withPipelines hperm id signal
  · rw [instance?_wired_eq_some, instance?_wired_eq_some]
    exact exists_congr fun e => and_congr_left' (labelled_withPipelines hperm h).mem_iff

theorem findings_withPipelines (h : config.HasDistinctBases registry) :
    ((config.withPipelines pipelines).convert registry .empty).1.findings.Perm
      (config.convert registry .empty).1.findings := by
  have hwired := sameButForOrder_wired hperm h
  have hreports : (((config.withPipelines pipelines).labelled registry).flatMap fun e =>
      e.1.report ((config.withPipelines pipelines).wired registry) e.2).Perm
      ((config.labelled registry).flatMap fun e => e.1.report (config.wired registry) e.2) := by
    simp only [hwired.report]
    exact (labelled_withPipelines hperm h).flatMap_right _
  rw [convert_eq, convert_eq]
  exact (((planFindings_withPipelines hperm).append_right _).append
    ((fates_withPipelines hperm registry).flatMap_right _)).append hreports

/-- The document has the same blocks in some order. -/
theorem document_withPipelines (h : config.HasDistinctBases registry) :
    ((config.withPipelines pipelines).convert registry .empty).1.document.SameButForOrder
      (config.convert registry .empty).1.document := by
  have hwired := sameButForOrder_wired hperm h
  let logging := (Draft.ofOption (Draft.block (.ofDotted "logging") "")
    config.service.telemetry.logs.logging?).blocks
  -- the blocks of the other order, with the references in the order of this one
  let between := logging ++ ((config.withPipelines pipelines).labelled registry).map fun e =>
    e.1.block (config.wired registry) e.2
  refine ⟨_, _, between, rfl, rfl, ?_, ?_⟩
  · rw [blocks_convert]
    refine List.rel_append (List.forall₂_same.2 fun b _ => .refl b) ?_
    rw [List.forall₂_map_left_iff, List.forall₂_map_right_iff]
    exact List.forall₂_same.2 fun e _ => hwired.block e.1 e.2
  · rw [blocks_convert]
    exact ((labelled_withPipelines hperm h).map _).append_left logging

end

/-- If no two accepted instances want the same label, pipelines in another order are converted with
the same findings in another order, and to a document with the same blocks in another order, which
refer to the same inputs in another order. -/
theorem convert_withPipelines (registry : Registry) (config : Config)
    (pipelines : KeyedList Pipeline) (h : config.HasDistinctBases registry)
    (hperm : pipelines.entries.Perm config.service.pipelines.entries) :
    let before := (SourceConfig.collector config).convert registry
    let after := (SourceConfig.collector (config.withPipelines pipelines)).convert registry
    after.findings.Perm before.findings ∧
    ∃ d e : Body, Format.Encodes after.document d ∧ Format.Encodes before.document e ∧
      d.SameButForOrder e := by
  intro before after
  have hfindings : ∀ c : Config, ((SourceConfig.collector c).convert registry).findings =
      (c.convert registry .empty).1.findings := fun c => by
    rw [SourceConfig.convert_eq]
    rfl
  refine ⟨?_, _, _, SourceConfig.encodes_convert .., SourceConfig.encodes_convert ..,
    document_withPipelines hperm h⟩
  rw [hfindings, hfindings]
  exact findings_withPipelines hperm h

/-- Two pipelines of one signal and one of another, which share a receiver, a processor and an
exporter. -/
def shared : Config where
  receivers := .ofList [("otlp", .null), ("zipkin", .null)]
  processors := .ofList [("batch", .null)]
  exporters := .ofList [("debug", .null), ("debug/more", .null)]
  service := { pipelines := .ofList [
    ("traces", ⟨["otlp", "zipkin"], ["batch"], ["debug"]⟩),
    ("traces/more", ⟨["zipkin"], ["batch"], ["debug/more", "debug"]⟩),
    ("logs", ⟨["otlp", "zipkin"], [], ["debug"]⟩)] }

/-- The pipelines in another order. -/
def reordered : KeyedList Pipeline := .ofList [
  ("logs", ⟨["otlp", "zipkin"], [], ["debug"]⟩),
  ("traces/more", ⟨["zipkin"], ["batch"], ["debug/more", "debug"]⟩),
  ("traces", ⟨["otlp", "zipkin"], ["batch"], ["debug"]⟩)]

theorem convert_withPipelines_shared :
    shared.HasDistinctBases .builtin ∧
    reordered.entries.Perm shared.service.pipelines.entries ∧
    let before := (SourceConfig.collector shared).convert .builtin
    let after := (SourceConfig.collector (shared.withPipelines reordered)).convert .builtin
    after.findings.Perm before.findings ∧
    ∃ d e : Body, Format.Encodes after.document d ∧ Format.Encodes before.document e ∧
      d.SameButForOrder e := by
  have hbases : shared.HasDistinctBases .builtin := by decide +kernel
  have hperm : reordered.entries.Perm shared.service.pipelines.entries := by decide +kernel
  exact ⟨hbases, hperm, convert_withPipelines .builtin shared reordered hbases hperm⟩

end Config

end Collector

end AgentConvert
