import AgentConvert.Proofs.Collector.Wiring
import AgentConvert.Proofs.Component
import AgentConvert.Proofs.Decoding
import AgentConvert.Proofs.Draft
import AgentConvert.Proofs.Number

/-!
# Blocks of a collector

Settings that were decoded from the body of a component are settings of its kind, and all of their
numbers are finite, because opaque bodies hold none that are not (`ComponentSettings.of_ofBody`).

Every accepted instance becomes one block, with the arguments of its settings and the label that was
handed out for it, and a document has these blocks in the order of the instances, behind the block
for the collector's own logs (`Config.blocks_convert`).
-/

namespace AgentConvert.Collector

open Decode

/-! ## Decoded settings -/

theorem gives_number (j : Json) : (number j.toValue).Gives fun x => x.isFinite = true := by
  refine gives_bind (gives_bare j) ?_
  rintro v rfl
  cases j with
  | int n => exact gives_pure (Binary64.isFinite_ofInt n.fits)
  | float negative magnitude => exact gives_pure rfl
  | null | bool _ | text _ | list _ | object _ => exact gives_throw _

theorem RetryOnFailure.gives_decode (j : Json) :
    (RetryOnFailure.record.decode j.toValue).Gives RetryOnFailure.IsFinite := by
  refine Record.gives_decode (by simp [record, IsFinite]) ?_ j
  simp only [record, List.forall_mem_cons]
  refine ⟨.aside fun _ _ h => h, .aside fun _ _ h => h, .aside fun _ _ h => h,
    .aside fun _ _ h => h, ?_, ?_, by simp⟩
  · exact Field.Keeps.of (fun j => gives_optional (gives_number j)) fun x hx _ h => ⟨hx, h.2⟩
  · exact Field.Keeps.of (fun j => gives_optional (gives_number j)) fun x hx _ h => ⟨h.1, hx⟩

theorem OtlpExporter.gives_decode (j : Json) : (OtlpExporter.record.decode j.toValue).Gives
    fun e => ∀ r ∈ e.retryOnFailure, r.IsFinite := by
  refine Record.gives_decode (by simp [record]) ?_ j
  simp only [record, List.forall_mem_cons]
  refine ⟨.aside fun _ _ h => h, .aside fun _ _ h => h, .aside fun _ _ h => h,
    .aside fun _ _ h => h, .aside fun _ _ h => h, .aside fun _ _ h => h, ?_,
    .aside fun _ _ h => h, .aside fun _ _ h => h, by simp⟩
  exact Field.Keeps.of (fun j => gives_optional (RetryOnFailure.gives_decode j)) fun _ hr _ _ => hr

theorem OtlpHttpExporter.gives_decode (j : Json) : (OtlpHttpExporter.record.decode j.toValue).Gives
    fun e => ∀ r ∈ e.retryOnFailure, r.IsFinite := by
  refine Record.gives_decode (by simp [record]) ?_ j
  simp only [record, List.forall_mem_cons]
  refine ⟨.aside fun _ _ h => h, .aside fun _ _ h => h, .aside fun _ _ h => h,
    .aside fun _ _ h => h, .aside fun _ _ h => h, .aside fun _ _ h => h,
    .aside fun _ _ h => h, .aside fun _ _ h => h, .aside fun _ _ h => h, ?_,
    .aside fun _ _ h => h, by simp⟩
  exact Field.Keeps.of (fun j => gives_optional (RetryOnFailure.gives_decode j)) fun _ hr _ _ => hr

/-! ## Settings of components -/

namespace ComponentSettings

theorem gives_decoder (kind : SourceKind) (j : Json) :
    (decoder kind j.toValue).Gives fun s => s.kind = kind ∧ s.IsFinite := by
  cases kind with
  | otlpExporter => exact gives_map (OtlpExporter.gives_decode j) fun _ h => ⟨rfl, h⟩
  | otlpHttpExporter => exact gives_map (OtlpHttpExporter.gives_decode j) fun _ h => ⟨rfl, h⟩
  | otlpReceiver | zipkinReceiver | batchProcessor | memoryLimiterProcessor | transformProcessor
  | attributesProcessor | debugExporter => exact gives_map (gives_true _) fun _ _ => ⟨rfl, trivial⟩

/-- Settings that were decoded from a body are settings of its kind, and their numbers are
finite. -/
theorem of_ofBody {kind : SourceKind} {body : Json} {s : ComponentSettings}
    (h : ofBody kind body = .ok s) : s.kind = kind ∧ s.IsFinite := by
  cases body with
  | null => exact of_run (gives_decoder kind (.object [])) h
  | bool _ | int _ | float _ _ | text _ | list _ | object _ => exact of_run (gives_decoder kind _) h

end ComponentSettings

/-- The numbers among the settings of an accepted instance are finite. -/
theorem Config.isFinite_of_mem_accepted {registry : Registry} {config : Config} {a : Accepted}
    (h : a ∈ config.accepted registry) : a.settings.IsFinite := by
  obtain ⟨-, body, -, hfate⟩ := mem_accepted.1 h
  obtain ⟨kind, -, -, hbody, -⟩ := Fate.of_eq_accepted.1 hfate
  exact (ComponentSettings.of_ofBody hbody).2

end AgentConvert.Collector

namespace AgentConvert.Collector

open Argument

/-! ## Instances -/

theorem SourceKind.isNamed_component (kind : SourceKind) : kind.component.IsNamed := by
  cases kind <;> decide

theorem SourceKind.component_of_input? {kind : SourceKind} {component : ComponentKind}
    (h : kind.input? = some component) : kind.component = component := by
  unfold input? at h
  split at h
  · exact Option.some.inj h
  · exact absurd h (by simp)

/-- The arguments of the block for the collector's own logs are a record of plain fields. -/
theorem TelemetryLogs.logging?_fields {logs : TelemetryLogs} {args : Argument}
    (h : logs.logging? = some args) :
    ∃ fields, args = .record fields ∧ Argument.AreParts (Special.Uses [] []) fields := by
  simp only [logging?] at h
  split at h
  · exact absurd h (by simp)
  · obtain rfl := Option.some.inj h
    exact ⟨_, rfl, by simp⟩

/-- The block of an accepted instance. -/
def Accepted.block (w : Wiring) (a : Accepted) (label : String) : Block :=
  ⟨a.kind.component.segments, some label,
    parts Special.render (a.settings.arguments (w.output a.id a.settings.signals))⟩

/-- The references of the block of an accepted instance. -/
def Accepted.references (w : Wiring) (a : Accepted) : List String :=
  a.settings.signals.flatMap (w.next a.id)

theorem Accepted.areParts_arguments {a : Accepted} (h : a.settings.IsFinite) (w : Wiring) :
    AreParts (Special.Uses (a.references w) [])
      (a.settings.arguments (w.output a.id a.settings.signals)) := by
  refine ComponentSettings.areParts_arguments h (Wiring.isPart_output fun signal hs path hp => ?_)
  exact List.mem_flatMap.2 ⟨signal, hs, hp⟩

/-- What is reported about an accepted instance. -/
def Accepted.report (w : Wiring) (a : Accepted) (label : String) : Diagnostics :=
  Converter.losses w a.id a.settings ++
    [.info ("Converted " ++ a.id.shown ++ " into " ++ a.kind.component.name ++ "." ++ label)]

/-- A registered instance becomes its block. -/
theorem Converter.convert_registered {w : Wiring} {a : Accepted} {label : String}
    {input : Option ComponentKind} (hr : w.instance? a.id = some ⟨a.kind.component, label, input⟩)
    (hl : label ≠ "") (h : a.settings.IsFinite) :
    convert w a.kind a.id a.settings = ⟨[a.block w label], a.report w label⟩ := by
  have hbuild := Block.build_parts .error (Accepted.areParts_arguments h w)
    a.kind.component label
  rw [← noOverride_eq, if_neg hl] at hbuild
  have hconverted : w.converted a.id a.kind.component
      (a.settings.arguments (w.output a.id a.settings.signals)) = ⟨[a.block w label],
        [.info ("Converted " ++ a.id.shown ++ " into " ++ a.kind.component.name ++ "." ++ label)]⟩ := by
    rw [Wiring.converted, hr]
    dsimp only
    rw [hbuild]
    rfl
  show convert w a.settings.kind a.id a.settings = _
  rw [convert_eq]
  exact congrArg (Draft.report (losses w a.id a.settings) ++ ·) hconverted

/-! ## Configurations -/

namespace Config

variable (registry : Registry) (config : Config)

/-- The labels of the accepted instances. -/
def labels : List String := ((config.accepted registry).mapM Accepted.label .empty).1

/-- The accepted instances with their labels. -/
def labelled : List (Accepted × String) := (config.accepted registry).zip (config.labels registry)

/-- The wiring of the accepted instances. -/
def wired : Wiring := config.wiring (config.labelled registry)

variable {registry config}

theorem length_labels : (config.labels registry).length = (config.accepted registry).length :=
  Labelling.length_mapM _ _ _

theorem isIdentifier_labels : ∀ label ∈ config.labels registry, isIdentifier label = true :=
  Labelling.yields_mapM (fun _ _ => Labelling.yields_fresh _ _) .empty

theorem map_fst_labelled : (config.labelled registry).map Prod.fst = config.accepted registry :=
  List.map_fst_zip (Nat.le_of_eq length_labels.symm)

theorem instance?_wired {e : Accepted × String} (h : e ∈ config.labelled registry) :
    (config.wired registry).instance? e.1.id = some ⟨e.1.kind.component, e.2, e.1.kind.input?⟩ :=
  instance?_wiring length_labels h

/-- Whatever is registered is an accepted instance. -/
theorem of_instance?_wired {id : InstanceId} {r : Registered}
    (h : (config.wired registry).instance? id = some r) :
    ∃ e ∈ config.labelled registry, e.1.id = id ∧ r = ⟨e.1.kind.component, e.2, e.1.kind.input?⟩ := by
  by_cases hid : id ∈ (config.accepted registry).map Accepted.id
  · rw [← map_fst_labelled, List.map_map] at hid
    obtain ⟨e, he, rfl⟩ := List.mem_map.1 hid
    exact ⟨e, he, rfl, Option.some.inj (h.symm.trans (instance?_wired he))⟩
  · have hnone := instance?_wiring_of_not_mem length_labels hid
    exact absurd (h.symm.trans hnone) (by simp)

theorem instance?_wired_eq_some {id : InstanceId} {r : Registered} :
    (config.wired registry).instance? id = some r ↔
      ∃ e ∈ config.labelled registry, e.1.id = id ∧ r = ⟨e.1.kind.component, e.2, e.1.kind.input?⟩ := by
  refine ⟨of_instance?_wired, ?_⟩
  rintro ⟨e, he, rfl, rfl⟩
  exact instance?_wired he

theorem convert_labelled {e : Accepted × String} (h : e ∈ config.labelled registry) :
    Converter.convert (config.wired registry) e.1.kind e.1.id e.1.settings =
      ⟨[e.1.block (config.wired registry) e.2], e.1.report (config.wired registry) e.2⟩ := by
  have hmem := List.of_mem_zip h
  exact Converter.convert_registered (instance?_wired h)
    (ne_of_isIdentifier (isIdentifier_labels e.2 hmem.2)) (isFinite_of_mem_accepted hmem.1)

/-- The accepted instances become one block each, in order. -/
theorem concat_labelled (registry : Registry) (config : Config) :
    Draft.concat ((config.accepted registry).map fun a =>
        Converter.convert (config.wired registry) a.kind a.id a.settings) =
      ⟨(config.labelled registry).map fun e => e.1.block (config.wired registry) e.2,
        (config.labelled registry).flatMap fun e => e.1.report (config.wired registry) e.2⟩ := by
  have hdrafts : (config.accepted registry).map (fun a =>
        Converter.convert (config.wired registry) a.kind a.id a.settings) =
      (config.labelled registry).map fun e =>
        ⟨[e.1.block (config.wired registry) e.2], e.1.report (config.wired registry) e.2⟩ := by
    rw [← map_fst_labelled, List.map_map]
    exact List.map_congr_left fun e he => convert_labelled he
  rw [hdrafts, Draft.concat, List.flatMap_map, List.flatMap_map, ← List.map_eq_flatMap]

theorem convert_eq (registry : Registry) (config : Config) :
    (config.convert registry .empty).1 = .report config.planFindings ++
      .ofOption (Draft.block (.ofDotted "logging") "") config.service.telemetry.logs.logging? ++
      .report ((config.fates registry).flatMap fun (id, fate) => fate.findings id) ++
      ⟨(config.labelled registry).map fun e => e.1.block (config.wired registry) e.2,
        (config.labelled registry).flatMap fun e => e.1.report (config.wired registry) e.2⟩ := by
  rw [← concat_labelled]
  rfl

/-- The blocks of a document: the one for the collector's own logs, if there is any, and one for
each accepted instance in order. -/
theorem blocks_convert (registry : Registry) (config : Config) :
    (config.convert registry .empty).1.blocks =
      (Draft.ofOption (Draft.block (.ofDotted "logging") "")
        config.service.telemetry.logs.logging?).blocks ++
      (config.labelled registry).map fun e => e.1.block (config.wired registry) e.2 := by
  rw [convert_eq]
  simp only [Draft.blocks_append, Draft.blocks_report, List.nil_append, List.append_nil]

end Config

end AgentConvert.Collector
