import AgentConvert.Proofs.Argument.Nested
import AgentConvert.Proofs.Collector.Blocks

/-!
# Where a component sends its data

The block of a receiver or of a processor has its own fields and, behind them, one nested block
called `output` (`ComponentSettings.sendsOn`). For each signal that something takes, the nested block
has one attribute with the references (`Accepted.output_block`).
-/

namespace AgentConvert.Collector

open Argument

/-! ## Components -/

/-- Whether the arguments are those of a component that sends its data on: fields of its own, none of
them a block called `output`, and behind them this block. -/
def SendsOn (arguments : Argument → Fields) : Prop :=
  ∃ own, Avoids ["output"] own ∧ ∀ output, arguments output = own ++ Field.always "output" output

theorem OtlpReceiver.sendsOn (r : OtlpReceiver) : SendsOn r.arguments :=
  ⟨_, by simp +decide [GrpcServer.block, HttpServer.block], fun _ => rfl⟩

theorem ZipkinReceiver.sendsOn (r : ZipkinReceiver) : SendsOn r.arguments :=
  ⟨_, by simp +decide [ServerTls.block], fun _ => rfl⟩

theorem BatchProcessor.sendsOn (b : BatchProcessor) : SendsOn b.arguments :=
  ⟨_, by simp +decide, fun _ => rfl⟩

theorem MemoryLimiter.sendsOn (m : MemoryLimiter) : SendsOn m.arguments :=
  ⟨_, by simp +decide, fun _ => rfl⟩

@[simp] theorem StatementGroup.takesName_blocks (groups : List StatementGroup) :
    (Argument.list (groups.map StatementGroup.block)).TakesName :=
  takesName_list_blocks (fun _ : StatementGroup => _) groups

theorem TransformProcessor.sendsOn (t : TransformProcessor) : SendsOn t.arguments :=
  ⟨_, by simp +decide [groupsField], fun _ => rfl⟩

@[simp] theorem AttributeAction.takesName_blocks (actions : List AttributeAction) :
    (Argument.list (actions.map AttributeAction.block)).TakesName :=
  takesName_list_blocks (fun _ : AttributeAction => _) actions

theorem AttributesProcessor.sendsOn (a : AttributesProcessor) : SendsOn a.arguments :=
  ⟨_, by simp +decide, fun _ => rfl⟩

/-- The class of the components of a kind. -/
def SourceKind.cls : SourceKind → InstanceClass
  | otlpReceiver | zipkinReceiver => .receiver
  | batchProcessor | memoryLimiterProcessor | transformProcessor | attributesProcessor => .processor
  | otlpExporter | otlpHttpExporter | debugExporter => .exporter

theorem SourceKind.cls_of_ofType? {cls : InstanceClass} {type : String} {kind : SourceKind}
    (h : ofType? cls type = some kind) : kind.cls = cls := by
  unfold ofType? at h
  split at h <;> first | cases h; rfl | cases h

theorem SourceKind.takesInput_eq (kind : SourceKind) :
    kind.takesInput = (kind.cls != .receiver) := by
  cases kind <;> rfl

/-- Receivers and processors send their data on. -/
theorem ComponentSettings.sendsOn {s : ComponentSettings} (h : s.kind.cls ≠ .exporter) :
    SendsOn s.arguments := by
  cases s with
  | otlpReceiver s => exact s.sendsOn
  | zipkinReceiver s => exact s.sendsOn
  | batchProcessor s => exact s.sendsOn
  | memoryLimiterProcessor s => exact s.sendsOn
  | transformProcessor s => exact s.sendsOn
  | attributesProcessor s => exact s.sendsOn
  | otlpExporter _ | otlpHttpExporter _ | debugExporter _ => exact absurd rfl h

/-! ## The nested block -/

theorem Signal.name_inj {a b : Signal} : a.name = b.name ↔ a = b := by
  cases a <;> cases b <;> decide

/-- The statements that say where the data of each signal goes; signals that nothing takes are left
out. -/
def outputBody (targets : Signal → List Expr) : Body :=
  Signal.all.flatMap fun signal =>
    if targets signal = [] then [] else [.attribute signal.name (.array (targets signal))]

theorem attribute?_outputBody (targets : Signal → List Expr) (signal : Signal) :
    (⟨["output"], none, outputBody targets⟩ : Block).attribute? signal.name =
      if targets signal = [] then none else some (.array (targets signal)) := by
  have hall : ∀ signals : List Signal,
      (⟨["output"], none, signals.flatMap fun s =>
        if targets s = [] then [] else [.attribute s.name (.array (targets s))]⟩ : Block).attribute?
          signal.name =
      if signal ∈ signals ∧ targets signal ≠ [] then some (.array (targets signal)) else none := by
    intro signals
    induction signals with
    | nil => simp [Block.attribute?]
    | cons s signals ih =>
      simp only [Block.attribute?] at ih
      simp only [Block.attribute?, List.flatMap_cons, List.findSome?_append, ih]
      by_cases hs : s = signal
      · subst hs
        by_cases h : targets s = [] <;> simp [h]
      · by_cases h : targets s = [] <;> simp [h, Signal.name_inj, hs, Ne.symm hs]
  rw [outputBody, hall]
  by_cases h : targets signal = [] <;> cases signal <;> simp [h, Signal.all]

/-- Where the data of an instance goes, by signal. -/
def Accepted.sent (w : Wiring) (a : Accepted) (signal : Signal) : List Expr :=
  (if a.settings.signals.contains signal then w.next a.id signal else []).map .ofDotted

theorem parts_unlessNil_references (name : String) (paths : List String) :
    parts Special.render (Field.unlessNil name .references paths) =
      if paths.map Expr.ofDotted = [] then []
      else [.attribute name (.array (paths.map .ofDotted))] := by
  cases paths with
  | nil => rfl
  | cons path paths =>
    have hvalues : (references (path :: paths)).IsValue fun _ => True :=
      (areValues_references _).2 fun _ _ => trivial
    rw [Field.unlessNil, if_neg (by simp), if_neg (by simp), parts, parts, List.append_nil,
      part_value name _ hvalues]
    show [Statement.attribute name (.array (exprs Special.render ((path :: paths).map reference)))] =
      _
    rw [exprs_eq_map, List.map_map]
    rfl

theorem Wiring.part_output (w : Wiring) (id : InstanceId) (signals : List Signal) (field : String) :
    (w.output id signals).part Special.render field = [.block (dotted field) none
      (outputBody fun signal =>
        (if signals.contains signal then w.next id signal else []).map .ofDotted)] := by
  show [Statement.block (dotted field) none (parts Special.render (Signal.all.flatMap _))] = _
  rw [parts_flatMap, outputBody]
  refine congrArg (fun g => [Statement.block (dotted field) none (Signal.all.flatMap g)]) ?_
  exact funext fun signal => parts_unlessNil_references signal.name _

/-- The block of a receiver or of a processor has statements of its own and, behind them, the nested
block that says where its data goes. -/
theorem Accepted.body_block {a : Accepted} (h : a.kind.cls ≠ .exporter) :
    ∃ own, Avoids ["output"] own ∧ ∀ w label, (a.block w label).body =
      parts Special.render own ++ [.block ["output"] none (outputBody (a.sent w))] := by
  obtain ⟨own, hown, heq⟩ := ComponentSettings.sendsOn h
  refine ⟨own, hown, fun w label => ?_⟩
  have hargs : a.settings.arguments (w.output a.id a.settings.signals) =
      own ++ Field.always "output" (w.output a.id a.settings.signals) := heq _
  have houtput : parts Special.render
      (Field.always "output" (w.output a.id a.settings.signals)) =
      [.block (dotted "output") none (outputBody (a.sent w))] := by
    rw [Field.always, parts, parts, List.append_nil, Wiring.part_output]
    rfl
  show parts Special.render _ = _
  rw [hargs, parts_append, houtput]
  rfl

/-- The block of a receiver or of a processor has one nested block called `output`. -/
theorem Accepted.output_block {a : Accepted} (h : a.kind.cls ≠ .exporter) (w : Wiring)
    (label : String) : (a.block w label).blocks.filter (·.name = ["output"]) =
      [⟨["output"], none, outputBody (a.sent w)⟩] := by
  obtain ⟨own, hown, hbody⟩ := Accepted.body_block h
  show (Body.blocks (a.block w label).body).filter _ = _
  rw [hbody, Body.blocks_append, List.filter_append]
  have hnone : (Body.blocks (parts Special.render own)).filter (·.name = ["output"]) = [] :=
    List.filter_eq_nil_iff.2 fun b hb => by simpa using hown Special.render b hb
  rw [hnone]
  rfl

end AgentConvert.Collector
