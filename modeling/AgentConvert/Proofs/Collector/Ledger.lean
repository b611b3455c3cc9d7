import AgentConvert.Proofs.Collector.Findings
import Mathlib.Data.List.Nodup

/-!
# What findings are about

Messages can be the same for different components, since they are folded into one line and some
name a type only. So findings are counted with what they are about: a ledger has the findings of the
plan, the pipelines and components that they are about beside them (`Config.planLedger`).

* `Ledger.about_flatMap_on`: subjects that are gone through once have the findings that were made
  for them.
* `Config.about_component`: a component is unused if no pipeline with a known signal lists it, and
  nothing else is said about it before it is looked at.
* `Config.about_mention`: a name that is declared nowhere has an error at each of its places.
-/

namespace AgentConvert.Collector

/-! ## Ledgers -/

/-- What a finding can be about. -/
inductive Subject where
  | pipeline (name : String)
  /-- The name at a place of a pipeline's list for a class. -/
  | mention (pipeline : String) (cls : InstanceClass) (place : Nat)
  | component (id : InstanceId)
  | extension (name : String)
  | connector (name : String)
  deriving DecidableEq

/-- Findings in order, each with what it is about. -/
abbrev Ledger := List (Subject × Diagnostic)

theorem flatMap_eq_of_nodup {α β : Type} {as : List α} {a : α} {f : α → List β} (hn : as.Nodup)
    (ha : a ∈ as) (h : ∀ b ∈ as, b ≠ a → f b = []) : as.flatMap f = f a := by
  induction as with
  | nil => exact absurd ha List.not_mem_nil
  | cons b as ih =>
    rw [List.nodup_cons] at hn
    rw [List.flatMap_cons]
    rcases List.mem_cons.1 ha with rfl | ha
    · have hrest : as.flatMap f = [] := List.flatMap_eq_nil_iff.2 fun c hc =>
        h c (List.mem_cons_of_mem _ hc) fun heq => hn.1 (heq ▸ hc)
      rw [hrest, List.append_nil]
    · have hne : b ≠ a := fun heq => hn.1 (heq ▸ ha)
      rw [h b (List.mem_cons_self ..) hne, List.nil_append]
      exact ih hn.2 ha fun c hc => h c (List.mem_cons_of_mem _ hc)

namespace Ledger

/-- Findings that are all about one subject. -/
def on (s : Subject) (ds : Diagnostics) : Ledger := ds.map (s, ·)

/-- The findings about a subject, in order. -/
def about (ledger : Ledger) (s : Subject) : Diagnostics :=
  (ledger.filter (·.1 = s)).map Prod.snd

@[simp] theorem map_snd_on (s : Subject) (ds : Diagnostics) : (on s ds).map Prod.snd = ds := by
  simp [on, Function.comp_def]

@[simp] theorem about_append (a b : Ledger) (s : Subject) :
    about (a ++ b) s = about a s ++ about b s := by
  simp [about]

theorem about_on (s : Subject) (ds : Diagnostics) : about (on s ds) s = ds := by
  simp [about, on, List.filter_map, Function.comp_def]

theorem about_on_of_ne {s t : Subject} (h : s ≠ t) (ds : Diagnostics) : about (on s ds) t = [] := by
  simp [about, on, h]

theorem about_eq_nil {ledger : Ledger} {s : Subject} (h : ∀ e ∈ ledger, e.1 ≠ s) :
    about ledger s = [] := by
  rw [about, List.filter_eq_nil_iff.2 (by simpa using h), List.map_nil]

theorem about_flatMap {α : Type} (f : α → Ledger) (as : List α) (s : Subject) :
    about (as.flatMap f) s = as.flatMap fun a => about (f a) s := by
  simp [about, List.filter_flatMap, List.map_flatMap]

variable {α : Type} {as : List α} {tag : α → Subject} {ds : α → Diagnostics}

theorem about_flatMap_on {a : α} (hn : as.Nodup) (ha : a ∈ as)
    (h : ∀ b ∈ as, tag b = tag a → b = a) :
    about (as.flatMap fun b => on (tag b) (ds b)) (tag a) = ds a := by
  rw [about_flatMap, flatMap_eq_of_nodup hn ha, about_on]
  exact fun b hb hne => about_on_of_ne (fun heq => hne (h b hb heq)) _

theorem subject_of_mem {e : Subject × Diagnostic} (h : e ∈ as.flatMap fun a => on (tag a) (ds a)) :
    ∃ a ∈ as, e.1 = tag a := by
  obtain ⟨a, ha, he⟩ := List.mem_flatMap.1 h
  obtain ⟨d, -, rfl⟩ := List.mem_map.1 he
  exact ⟨a, ha, rfl⟩

theorem about_flatMap_on_of_ne {s : Subject} (h : ∀ a ∈ as, tag a ≠ s) :
    about (as.flatMap fun a => on (tag a) (ds a)) s = [] := by
  refine about_eq_nil fun e he heq => ?_
  obtain ⟨a, ha, he⟩ := subject_of_mem he
  exact h a ha (he.symm.trans heq)

theorem map_snd_flatMap_on :
    (as.flatMap fun a => on (tag a) (ds a)).map Prod.snd = as.flatMap ds := by
  simp [List.map_flatMap]

end Ledger

theorem flatMap_when {α : Type} (p : α → Bool) (d : α → Diagnostic) (as : List α) :
    (as.flatMap fun a => Diagnostic.when (p a) (d a)) = (as.filter p).map d := by
  induction as with
  | nil => rfl
  | cons a as ih =>
    rw [List.flatMap_cons, ih, List.filter_cons]
    cases p a <;> rfl

theorem InstanceClass.nodup_all : all.Nodup := by decide

theorem KeyedList.mem_keys {α : Type} {l : KeyedList α} {key : String} :
    l.contains key = true ↔ key ∈ l.keys := List.contains_iff_mem

/-! ## The plan -/

namespace Config

open Ledger

variable (config : Config)

/-- The finding for a pipeline whose signal is not known. -/
def unknownPipeline (name type : String) : Diagnostic :=
  .error ("pipeline \"" ++ name ++ "\": " ++ Signal.unknownMessage type ++
    "; pipeline was not converted")

/-- Whether a name is declared, among the components of a class or as a connector. -/
def declares (cls : InstanceClass) (name : String) : Bool :=
  (config.components cls).contains name || config.connectors.contains name

/-- The finding for a name in a pipeline that is not declared. -/
def undeclaredMention (pipeline : String) (cls : InstanceClass) (name : String) : Diagnostic :=
  .error ("pipeline \"" ++ pipeline ++ "\" references " ++ cls.name ++ " \"" ++ name ++
    "\" which is not declared")

/-- The finding for a component that no pipeline lists. -/
def unusedComponent (id : InstanceId) : Diagnostic :=
  .warning (id.cls.name ++ " \"" ++ id.name ++
    "\" is not used in any pipeline and was not converted")

/-- The finding for an entry of a section that is not supported. -/
def unsupportedEntry (noun name : String) : Diagnostic :=
  .warning (noun ++ " \"" ++ name ++ "\" is not supported and was not converted")

/-- What is said about the names that a pipeline lists. -/
def mentionLedger (p : SignalPipeline) (cls : InstanceClass) : Ledger :=
  (p.names cls).zipIdx.flatMap fun e => on (.mention p.name cls e.2)
    (Diagnostic.when (!config.declares cls e.1) (undeclaredMention p.name cls e.1))

def pipelineLedger (name : String) (stages : Pipeline) : Ledger :=
  match pipelineSignal name with
  | .ok signal => InstanceClass.all.flatMap (config.mentionLedger ⟨name, signal, stages⟩)
  | .error type => on (.pipeline name) [unknownPipeline name type]

def unusedLedger (cls : InstanceClass) : Ledger :=
  (config.components cls).keys.flatMap fun name => on (.component ⟨cls, name⟩)
    (Diagnostic.when (!config.members.contains ⟨cls, name⟩) (unusedComponent ⟨cls, name⟩))

/-- What is said about a configuration before its components are looked at. -/
def planLedger : Ledger :=
  (config.service.pipelines.entries.flatMap fun e => config.pipelineLedger e.1 e.2) ++
  InstanceClass.all.flatMap config.unusedLedger ++
  (config.extensions.keys.flatMap fun name =>
    on (.extension name) [unsupportedEntry "extension" name]) ++
  config.connectors.keys.flatMap fun name =>
    on (.connector name) [unsupportedEntry "connector" name]

variable {config}

theorem map_snd_mentionLedger (p : SignalPipeline) (cls : InstanceClass) :
    (config.mentionLedger p cls).map Prod.snd = p.undeclared config cls := by
  have hnames : ((p.names cls).zipIdx.flatMap fun e => Diagnostic.when
      (!config.declares cls e.1) (undeclaredMention p.name cls e.1)) =
      (p.names cls).flatMap fun name => Diagnostic.when
        (!config.declares cls name) (undeclaredMention p.name cls name) := by
    conv_rhs => rw [← List.zipIdx_map_fst 0 (p.names cls), List.flatMap_map]
  rw [mentionLedger, map_snd_flatMap_on, hnames, flatMap_when]
  simp only [declares, Bool.not_or]
  rfl

theorem map_snd_pipelineLedger (name : String) (stages : Pipeline) :
    (config.pipelineLedger name stages).map Prod.snd = config.pipelineFindings name stages := by
  unfold pipelineLedger pipelineFindings
  cases pipelineSignal name with
  | ok signal => simp only [List.map_flatMap, map_snd_mentionLedger]
  | error type => exact map_snd_on _ _

theorem map_snd_unusedLedger (cls : InstanceClass) :
    (config.unusedLedger cls).map Prod.snd = config.unused cls := by
  rw [unusedLedger, map_snd_flatMap_on, flatMap_when]
  rfl

/-- The ledger of the plan has the findings of the plan. -/
theorem map_snd_planLedger : config.planLedger.map Prod.snd = config.planFindings := by
  simp only [planLedger, List.map_append, List.map_flatMap, map_snd_pipelineLedger,
    map_snd_unusedLedger, map_snd_on, ← List.map_eq_flatMap]
  rfl

/-! ## Subjects of the plan -/

theorem mem_signalPipelines {p : SignalPipeline} : p ∈ config.signalPipelines ↔
    (p.name, p.stages) ∈ config.service.pipelines.entries ∧
      pipelineSignal p.name = .ok p.signal := by
  unfold signalPipelines
  rw [List.mem_filterMap]
  constructor
  · rintro ⟨e, he, h⟩
    cases hsignal : pipelineSignal e.1 with
    | ok signal =>
      rw [hsignal] at h
      obtain rfl := Option.some.inj h
      exact ⟨he, hsignal⟩
    | error type =>
      rw [hsignal] at h
      exact absurd h (by simp [Except.toOption])
  · rintro ⟨he, hsignal⟩
    refine ⟨_, he, ?_⟩
    rw [hsignal]
    rfl

/-- Whether a subject occurs in the configuration. -/
def Occurs (config : Config) : Subject → Prop
  | .pipeline name => config.service.pipelines.contains name = true ∧
    ∃ type, pipelineSignal name = .error type
  | .mention name cls place =>
    ∃ p ∈ config.signalPipelines, p.name = name ∧ place < (p.names cls).length
  | .component id => (config.components id.cls).contains id.name = true
  | .extension name => config.extensions.contains name = true
  | .connector name => config.connectors.contains name = true

theorem place_of_mem {p : SignalPipeline} {cls : InstanceClass} {e : Subject × Diagnostic}
    (h : e ∈ config.mentionLedger p cls) :
    ∃ place < (p.names cls).length, e.1 = .mention p.name cls place := by
  obtain ⟨a, ha, he⟩ := subject_of_mem h
  exact ⟨a.2, List.snd_lt_of_mem_zipIdx ha, he⟩

/-- The ledger of a pipeline is about the pipeline, or about places in it. -/
theorem pipeline_of_mem {name : String} {stages : Pipeline} {e : Subject × Diagnostic}
    (h : e ∈ config.pipelineLedger name stages) :
    (e.1 = .pipeline name ∧ ∃ type, pipelineSignal name = .error type) ∨
      ∃ signal, pipelineSignal name = .ok signal ∧ ∃ cls,
        ∃ place < (SignalPipeline.names ⟨name, signal, stages⟩ cls).length,
          e.1 = .mention name cls place := by
  unfold pipelineLedger at h
  split at h
  · rename_i signal hsignal
    obtain ⟨cls, -, h⟩ := List.mem_flatMap.1 h
    exact .inr ⟨signal, hsignal, cls, place_of_mem h⟩
  · rename_i type hsignal
    obtain ⟨d, -, rfl⟩ := List.mem_map.1 h
    exact .inl ⟨rfl, type, hsignal⟩

theorem component_of_mem {cls : InstanceClass} {e : Subject × Diagnostic}
    (h : e ∈ config.unusedLedger cls) :
    ∃ name ∈ (config.components cls).keys, e.1 = .component ⟨cls, name⟩ := subject_of_mem h

/-- Whatever the plan says is about something that occurs in the configuration. -/
theorem occurs_of_mem_planLedger {e : Subject × Diagnostic} (h : e ∈ config.planLedger) :
    config.Occurs e.1 := by
  simp only [planLedger, List.mem_append] at h
  rcases h with ((h | h) | h) | h
  · obtain ⟨entry, hentry, h⟩ := List.mem_flatMap.1 h
    rcases pipeline_of_mem h with ⟨h, hsignal⟩ | ⟨signal, hsignal, cls, place, hplace, h⟩
    · rw [h]
      exact ⟨KeyedList.mem_keys.2 (List.mem_map_of_mem hentry), hsignal⟩
    · rw [h]
      exact ⟨⟨entry.1, signal, entry.2⟩, mem_signalPipelines.2 ⟨hentry, hsignal⟩, rfl, hplace⟩
  · obtain ⟨cls, -, h⟩ := List.mem_flatMap.1 h
    obtain ⟨name, hname, h⟩ := component_of_mem h
    rw [h]
    exact KeyedList.mem_keys.2 hname
  · obtain ⟨name, hname, h⟩ := subject_of_mem h
    rw [h]
    exact KeyedList.mem_keys.2 hname
  · obtain ⟨name, hname, h⟩ := subject_of_mem h
    rw [h]
    exact KeyedList.mem_keys.2 hname

/-! ## What the plan says -/

theorem about_pipelines {s : Subject} (h : ∀ name, s ≠ .pipeline name)
    (h' : ∀ name cls place, s ≠ .mention name cls place) :
    about (config.service.pipelines.entries.flatMap fun e => config.pipelineLedger e.1 e.2) s = [] := by
  refine about_eq_nil fun e he heq => ?_
  obtain ⟨entry, -, he⟩ := List.mem_flatMap.1 he
  rcases pipeline_of_mem he with ⟨he, -⟩ | ⟨-, -, cls, place, -, he⟩
  · exact h entry.1 (heq ▸ he)
  · exact h' entry.1 cls place (heq ▸ he)

theorem about_unused {s : Subject} (h : ∀ id, s ≠ .component id) :
    about (InstanceClass.all.flatMap config.unusedLedger) s = [] := by
  refine about_eq_nil fun e he heq => ?_
  obtain ⟨cls, -, he⟩ := List.mem_flatMap.1 he
  obtain ⟨name, -, he⟩ := component_of_mem he
  exact h ⟨cls, name⟩ (heq ▸ he)

theorem about_extensions {s : Subject} (h : ∀ name, s ≠ .extension name) :
    about (config.extensions.keys.flatMap fun name =>
      on (.extension name) [unsupportedEntry "extension" name]) s = [] :=
  about_flatMap_on_of_ne fun name _ heq => h name heq.symm

theorem about_connectors {s : Subject} (h : ∀ name, s ≠ .connector name) :
    about (config.connectors.keys.flatMap fun name =>
      on (.connector name) [unsupportedEntry "connector" name]) s = [] :=
  about_flatMap_on_of_ne fun name _ heq => h name heq.symm

/-- The plan says of a component that it is not used, or nothing. -/
theorem about_component (id : InstanceId)
    (h : (config.components id.cls).contains id.name = true) :
    about config.planLedger (.component id) =
      Diagnostic.when (!config.members.contains id) (unusedComponent id) := by
  have hcls : about (InstanceClass.all.flatMap config.unusedLedger) (.component id) =
      about (config.unusedLedger id.cls) (.component id) := by
    rw [about_flatMap, flatMap_eq_of_nodup InstanceClass.nodup_all (InstanceClass.mem_all id.cls)]
    refine fun cls _ hne => about_eq_nil fun e he heq => hne ?_
    obtain ⟨name, -, he⟩ := component_of_mem he
    rw [heq] at he
    exact congrArg InstanceId.cls (Subject.component.inj he).symm
  have hname : about (config.unusedLedger id.cls) (.component id) =
      Diagnostic.when (!config.members.contains id) (unusedComponent id) :=
    about_flatMap_on (config.components id.cls).nodup (KeyedList.mem_keys.1 h) fun name _ heq =>
      congrArg InstanceId.name (Subject.component.inj heq)
  simp only [planLedger, about_append]
  rw [about_pipelines (by simp) (by simp), about_extensions (by simp), about_connectors (by simp),
    hcls, hname]
  simp

/-- What the plan says of a pipeline and of the places in it stands in the pipeline's ledger. -/
theorem about_pipelines_of_mem {s : Subject} {name : String} {stages : Pipeline}
    (he : (name, stages) ∈ config.service.pipelines.entries)
    (h : s = .pipeline name ∨ ∃ cls place, s = .mention name cls place) :
    about config.planLedger s = about (config.pipelineLedger name stages) s := by
  have hentries : config.service.pipelines.entries.Nodup := config.service.pipelines.nodup.of_map _
  have hunique : about (config.service.pipelines.entries.flatMap fun e =>
      config.pipelineLedger e.1 e.2) s = about (config.pipelineLedger name stages) s := by
    rw [about_flatMap, flatMap_eq_of_nodup hentries he]
    refine fun entry hentry hne => about_eq_nil fun e hmem heq => hne ?_
    refine List.inj_on_of_nodup_map config.service.pipelines.nodup hentry he ?_
    rcases pipeline_of_mem hmem with ⟨hmem, -⟩ | ⟨-, -, cls, place, -, hmem⟩
    all_goals rcases h with h | ⟨cls', place', h⟩ <;> simp_all
  simp only [planLedger, about_append]
  rw [hunique, about_unused, about_extensions, about_connectors]
  · simp
  all_goals rcases h with rfl | ⟨cls, place, rfl⟩ <;> simp

theorem about_pipeline {name type : String} (h : config.service.pipelines.contains name = true)
    (ht : pipelineSignal name = .error type) :
    about config.planLedger (.pipeline name) = [unknownPipeline name type] := by
  obtain ⟨⟨_, stages⟩, he, rfl⟩ := List.mem_map.1 (KeyedList.mem_keys.1 h)
  rw [about_pipelines_of_mem he (.inl rfl), pipelineLedger]
  dsimp only at ht ⊢
  rw [ht]
  exact about_on _ _

/-- The plan says of a place in a pipeline that its name is not declared, or nothing. -/
theorem about_mention {p : SignalPipeline} (hp : p ∈ config.signalPipelines) {cls : InstanceClass}
    {place : Nat} {name : String} (h : (p.names cls)[place]? = some name) :
    about config.planLedger (.mention p.name cls place) =
      Diagnostic.when (!config.declares cls name) (undeclaredMention p.name cls name) := by
  obtain ⟨he, hsignal⟩ := mem_signalPipelines.1 hp
  have hcls :
      about (InstanceClass.all.flatMap (config.mentionLedger p)) (.mention p.name cls place) =
      about (config.mentionLedger p cls) (.mention p.name cls place) := by
    rw [about_flatMap, flatMap_eq_of_nodup InstanceClass.nodup_all (InstanceClass.mem_all cls)]
    refine fun cls' _ hne => about_eq_nil fun e hmem heq => hne ?_
    obtain ⟨place', -, hmem⟩ := place_of_mem hmem
    rw [heq] at hmem
    exact (Subject.mention.inj hmem).2.1.symm
  have hnodup : (p.names cls).zipIdx.Nodup := by
    refine List.Nodup.of_map Prod.snd ?_
    rw [List.zipIdx_map_snd]
    exact List.nodup_range'
  have hplace : (name, place) ∈ (p.names cls).zipIdx := List.mem_zipIdx_iff_getElem?.2 h
  rw [about_pipelines_of_mem he (.inr ⟨cls, place, rfl⟩), pipelineLedger, hsignal]
  dsimp only
  rw [hcls]
  refine about_flatMap_on hnodup hplace fun e hmem heq => ?_
  obtain ⟨name', place'⟩ := e
  obtain rfl : place' = place := (Subject.mention.inj heq).2.2
  have hname := List.mem_zipIdx_iff_getElem?.1 hmem
  rw [Prod.mk.injEq]
  exact ⟨Option.some.inj (hname.symm.trans h), rfl⟩

theorem about_extension {name : String} (h : config.extensions.contains name = true) :
    about config.planLedger (.extension name) = [unsupportedEntry "extension" name] := by
  have hname : about (config.extensions.keys.flatMap fun name =>
      on (.extension name) [unsupportedEntry "extension" name]) (.extension name) =
      [unsupportedEntry "extension" name] :=
    about_flatMap_on config.extensions.nodup (KeyedList.mem_keys.1 h) fun _ _ heq =>
      Subject.extension.inj heq
  simp only [planLedger, about_append]
  rw [about_pipelines (by simp) (by simp), about_unused (by simp), about_connectors (by simp),
    hname]
  simp

theorem about_connector {name : String} (h : config.connectors.contains name = true) :
    about config.planLedger (.connector name) = [unsupportedEntry "connector" name] := by
  have hname : about (config.connectors.keys.flatMap fun name =>
      on (.connector name) [unsupportedEntry "connector" name]) (.connector name) =
      [unsupportedEntry "connector" name] :=
    about_flatMap_on config.connectors.nodup (KeyedList.mem_keys.1 h) fun _ _ heq =>
      Subject.connector.inj heq
  simp only [planLedger, about_append]
  rw [about_pipelines (by simp) (by simp), about_unused (by simp), about_extensions (by simp),
    hname]
  simp

end Config

end AgentConvert.Collector
