import AgentConvert.Conversion
import AgentConvert.Proofs.Collector.Followers
import AgentConvert.Proofs.Collector.Output
import AgentConvert.Proofs.Identity.Unique
import Mathlib.Data.List.Nodup

/-!
# The document of a collector

With all converters at hand, an instance in the pipelines is accepted if its type is supported, its
body can be decoded and validation finds no error (`Config.accepted_builtin`, `Config.mem_usable`),
and the accepted ones are in the order of their first visits (`Config.pairwise_usable`). An accepted
instance has the class of its kind, so all that follows an instance and is accepted takes input, and
an instance refers to each of these (`Config.next_wired`).

The document has the block for the collector's own logs, if there is any, and one block for each
accepted instance (`Placement`). The block of a receiver or of a processor says for each signal
where the data goes: to the inputs of the accepted instances right behind it, in the order in which
they first come there (`Placement.IsWired`).
-/

namespace AgentConvert.Collector

/-! ## Acceptance -/

theorem Registry.contains_builtin (kind : SourceKind) : builtin.contains kind = true := by
  cases kind <;> decide

namespace Config

/-- The settings of an instance that is declared and of a supported type, if its body can be decoded
and validation finds no error. -/
def settings? (config : Config) (id : InstanceId) : Option ComponentSettings := do
  let body ← config.body? id
  let kind ← SourceKind.ofType? id.cls (ComponentId.ofText id.name).type
  let settings ← (ComponentSettings.ofBody kind body).toOption
  if (Converter.faults kind id settings).hasErrors then none else some settings

/-- The instances in the pipelines that have such settings, in the order in which the pipelines
first name them. -/
def usable (config : Config) : List Accepted :=
  config.members.filterMap fun id => (config.settings? id).map (Accepted.mk id)

theorem accepted_builtin (config : Config) : config.accepted .builtin = config.usable := by
  unfold accepted fates usable settings?
  rw [List.filterMap_filterMap]
  refine congrArg (fun f => config.members.filterMap f) (funext fun id => ?_)
  cases config.body? id with
  | none => rfl
  | some body =>
    dsimp only [Option.map_some, Option.bind_some, bind]
    unfold Fate.of
    cases SourceKind.ofType? id.cls (ComponentId.ofText id.name).type with
    | none => rfl
    | some kind =>
      rw [Option.filter_some, if_pos (Registry.contains_builtin kind)]
      dsimp only [Option.bind_some]
      cases ComponentSettings.ofBody kind body with
      | error e => rfl
      | ok settings =>
        dsimp only [Except.toOption, Option.bind_some]
        cases (Converter.faults kind id settings).hasErrors <;> rfl

/-- Whether a pipeline with a known signal lists a name under a class. -/
def Lists (config : Config) (id : InstanceId) : Prop :=
  ∃ p ∈ config.signalPipelines, id.name ∈ p.names id.cls

/-- Whether an instance is accepted with these settings: a pipeline lists it, it is declared and of
a supported type, its body can be decoded, and validation finds no error. -/
def Accepts (config : Config) (a : Accepted) : Prop :=
  config.Lists a.id ∧ ∃ body kind, config.body? a.id = some body ∧
    SourceKind.ofType? a.id.cls (ComponentId.ofText a.id.name).type = some kind ∧
    ComponentSettings.ofBody kind body = .ok a.settings ∧
    ∀ fault ∈ Converter.faults kind a.id a.settings, fault.severity ≠ .error

/-- What pipelines with known signals name, pipeline after pipeline. -/
def visits (config : Config) : List InstanceId :=
  config.service.pipelines.entries.flatMap fun (name, stages) =>
    match pipelineSignal name with
    | .ok _ => stages.receivers.map (⟨.receiver, ·⟩) ++ stages.processors.map (⟨.processor, ·⟩) ++
        stages.exporters.map (⟨.exporter, ·⟩)
    | .error _ => []

variable {registry : Registry} {config : Config} {id : InstanceId} {body : Json}

theorem isSome_body? : (config.body? id).isSome = (config.components id.cls).contains id.name := by
  rw [body?, KeyedList.get?, Option.isSome_map, Bool.eq_iff_iff, List.find?_isSome]
  simp only [KeyedList.contains, KeyedList.keys, List.contains_iff_mem, List.mem_map, beq_iff_eq]

theorem contains_of_body? (hbody : config.body? id = some body) :
    (config.components id.cls).contains id.name = true := by
  rw [← isSome_body?, hbody]
  rfl

/-- The instances in the pipelines are the declared components that some pipeline lists. -/
theorem mem_members : id ∈ config.members ↔
    config.Lists id ∧ (config.components id.cls).contains id.name = true := by
  simp only [members, List.mem_eraseDups, List.mem_flatMap, SignalPipeline.members,
    SignalPipeline.instances, List.mem_map, List.mem_filter, Lists]
  constructor
  · rintro ⟨p, hp, cls, -, name, ⟨hname, hdeclared⟩, rfl⟩
    exact ⟨⟨p, hp, hname⟩, hdeclared⟩
  · rintro ⟨⟨p, hp, hname⟩, hdeclared⟩
    exact ⟨p, hp, id.cls, InstanceClass.mem_all _, id.name, ⟨hname, hdeclared⟩, rfl⟩

theorem settings?_eq_some_iff {settings : ComponentSettings} :
    config.settings? id = some settings ↔ ∃ body kind, config.body? id = some body ∧
      SourceKind.ofType? id.cls (ComponentId.ofText id.name).type = some kind ∧
      ComponentSettings.ofBody kind body = .ok settings ∧
      ∀ fault ∈ Converter.faults kind id settings, fault.severity ≠ .error := by
  unfold settings?
  simp only [Option.bind_eq_bind, Option.bind_eq_some_iff]
  refine exists_congr fun body => ?_
  rw [← exists_and_left]
  refine exists_congr fun kind => and_congr_right fun _ => and_congr_right fun _ => ?_
  have hfaults (settings : ComponentSettings) :
      (Converter.faults kind id settings).hasErrors = false ↔
        ∀ fault ∈ Converter.faults kind id settings, fault.severity ≠ .error := by
    simp [Diagnostics.hasErrors]
  constructor
  · rintro ⟨decoded, hdecoded, h⟩
    split at h
    · exact absurd h (by simp)
    · rename_i hno
      obtain rfl := Option.some.inj h
      refine ⟨?_, (hfaults _).1 (Bool.eq_false_iff.2 hno)⟩
      cases hbody : ComponentSettings.ofBody kind body with
      | error e =>
        rw [hbody] at hdecoded
        exact absurd hdecoded (by simp [Except.toOption])
      | ok settings =>
        rw [hbody] at hdecoded
        exact congrArg Except.ok (Option.some.inj hdecoded)
  · rintro ⟨hbody, h⟩
    exact ⟨settings, by rw [hbody]; rfl, by rw [(hfaults _).2 h]; rfl⟩

/-- The instances that get a block are those that are accepted. -/
theorem mem_usable {a : Accepted} : a ∈ config.usable ↔ config.Accepts a := by
  obtain ⟨id, settings⟩ := a
  have hmap : (∃ id', id' ∈ config.members ∧
      (config.settings? id').map (Accepted.mk id') = some ⟨id, settings⟩) ↔
      id ∈ config.members ∧ config.settings? id = some settings := by
    constructor
    · rintro ⟨id', hid, hsettings⟩
      obtain ⟨settings', hsettings, heq⟩ := Option.map_eq_some_iff.1 hsettings
      cases heq
      exact ⟨hid, hsettings⟩
    · rintro ⟨hid, hsettings⟩
      exact ⟨id, hid, by rw [hsettings]; rfl⟩
  rw [usable, List.mem_filterMap, hmap, mem_members, settings?_eq_some_iff, and_assoc]
  refine and_congr_right fun _ => ⟨And.right, fun h => ⟨?_, h⟩⟩
  obtain ⟨body, -, hbody, -⟩ := h
  exact contains_of_body? hbody

/-- The members are the visits to declared instances, each taken once. -/
theorem members_eq (config : Config) : config.members =
    (config.visits.filter fun id => (config.components id.cls).contains id.name).eraseDups := by
  rw [members, visits, signalPipelines, List.filter_flatMap, List.filterMap_eq_flatMap_toList,
    List.flatMap_assoc]
  refine congrArg List.eraseDups (List.flatMap_congr fun e _ => ?_)
  dsimp only
  cases pipelineSignal e.1 with
  | error type => rfl
  | ok signal =>
    simp only [Except.toOption, Option.map_some, Option.toList_some, SignalPipeline.members,
      InstanceClass.all, List.flatMap_cons, List.flatMap_nil,
      SignalPipeline.instances, SignalPipeline.names, List.filter_append, List.filter_map,
      List.append_nil, List.append_assoc]
    rfl

/-- What is taken once each comes in the order in which it is first there. -/
theorem pairwise_eraseDups_filter {α : Type} [DecidableEq α] (p : α → Bool) (l : List α) :
    (l.filter p).eraseDups.Pairwise fun a b => l.idxOf a < l.idxOf b := by
  induction l generalizing p with
  | nil => exact .nil
  | cons x rest ih =>
    have hrest (q : α → Bool) (hq : ∀ a ∈ (rest.filter q).eraseDups, a ≠ x) :
        (rest.filter q).eraseDups.Pairwise fun a b =>
          (x :: rest).idxOf a < (x :: rest).idxOf b := by
      refine (ih q).imp_of_mem fun ha hb hlt => ?_
      rw [List.idxOf_cons_ne rest (hq _ ha).symm, List.idxOf_cons_ne rest (hq _ hb).symm]
      exact Nat.succ_lt_succ hlt
    by_cases hx : p x = true
    · rw [List.filter_cons_of_pos hx, List.eraseDups_cons, List.filter_filter]
      have hne : ∀ a ∈ (rest.filter fun a => !a == x && p a).eraseDups, a ≠ x := by
        simp +contextual [List.mem_eraseDups]
      refine List.pairwise_cons.2 ⟨fun a ha => ?_, hrest _ hne⟩
      rw [List.idxOf_cons_self, List.idxOf_cons_ne rest (hne a ha).symm]
      exact Nat.succ_pos _
    · rw [List.filter_cons_of_neg hx]
      refine hrest p fun a ha => ?_
      rintro rfl
      exact hx (List.mem_filter.1 (List.mem_eraseDups.1 ha)).2

/-- They come in the order in which the pipelines first name them. -/
theorem pairwise_usable (config : Config) :
    config.usable.Pairwise fun a b => config.visits.idxOf a.id < config.visits.idxOf b.id := by
  rw [usable, members_eq]
  refine (pairwise_eraseDups_filter _ _).filterMap _ fun id id' hlt a ha b hb => ?_
  obtain ⟨settings, -, rfl⟩ := Option.map_eq_some_iff.1 ha
  obtain ⟨settings', -, rfl⟩ := Option.map_eq_some_iff.1 hb
  exact hlt

/-! ## References -/

theorem cls_of_mem_accepted {a : Accepted} (h : a ∈ config.accepted registry) :
    a.kind.cls = a.id.cls := by
  obtain ⟨-, body, -, hfate⟩ := mem_accepted.1 h
  obtain ⟨kind, htype, -, hbody, -⟩ := Fate.of_eq_accepted.1 hfate
  show a.settings.kind.cls = _
  rw [(ComponentSettings.of_ofBody hbody).1]
  exact SourceKind.cls_of_ofType? htype

/-- What follows an instance and is accepted takes input. -/
theorem input?_of_follower {id : InstanceId} {signal : Signal} {a : Accepted}
    (ha : a ∈ config.accepted registry) (h : a.id ∈ config.followers id signal) :
    a.kind.input? = some a.kind.component := by
  have hcls : a.kind.cls ≠ .receiver := by
    rw [cls_of_mem_accepted ha]
    exact cls_of_mem_followers h
  rw [SourceKind.input?, SourceKind.takesInput_eq, if_pos (bne_iff_ne.2 hcls)]

theorem downstream_wired (id : InstanceId) (signal : Signal) :
    (config.wired registry).graph.downstream id signal = config.followers id signal := by
  rw [wired, wiring_eq, graph_registerAll]
  exact downstream_graph config id signal

/-- An instance refers to the inputs of the accepted instances among its followers. -/
theorem next_wired (registry : Registry) (config : Config) (id : InstanceId) (signal : Signal) :
    (config.wired registry).next id signal = (config.followers id signal).filterMap fun target =>
      ((config.labelled registry).find? fun e => e.1.id = target).map fun e =>
        e.1.kind.component.exportPath e.2 "input" := by
  rw [Wiring.next, downstream_wired]
  refine List.filterMap_congr fun target htarget => ?_
  cases hfind : (config.labelled registry).find? fun e => e.1.id = target with
  | some e =>
    have he := List.mem_of_find?_eq_some hfind
    obtain rfl : e.1.id = target := by simpa using List.find?_some hfind
    rw [instance?_wired he]
    dsimp only [Option.bind_some, Option.map_some]
    rw [input?_of_follower (List.of_mem_zip he).1 htarget]
    rfl
  | none =>
    have hnone : (config.wired registry).instance? target = none := by
      refine Option.eq_none_iff_forall_not_mem.2 fun r hr => ?_
      obtain ⟨e, he, hid, -⟩ := of_instance?_wired hr
      have hne := List.find?_eq_none.1 hfind e he
      exact hne (decide_eq_true hid)
    rw [hnone]
    rfl

end Config

/-- An accepted instance with its block and what is reported about it. -/
structure Placement where
  accepted : Accepted
  block : Block
  findings : Diagnostics

namespace Placement

/-- The path of the block's input: the kind, the label and `input`. -/
def input? (p : Placement) : Option Expr :=
  p.block.label.map fun label => .path (p.block.name ++ [label, "input"])

/-- The inputs of instances; those that have no block are left out. -/
def inputs (placements : List Placement) (ids : List InstanceId) : List Expr :=
  ids.filterMap fun id => (placements.find? (·.accepted.id = id)).bind input?

variable (config : Config) (placements : List Placement)

/-- Where the data of an instance goes, by signal. A receiver for traces has no other data. -/
def targets (p : Placement) (signal : Signal) : List Expr :=
  if p.accepted.kind = .zipkinReceiver ∧ signal ≠ .traces then []
  else inputs placements (config.followers p.accepted.id signal)

/-- The warnings about a receiver for traces that is followed for other signals. -/
def unwired (id : InstanceId) : Diagnostics :=
  ([.metrics, .logs].filter fun signal => config.followers id signal ≠ []).map fun signal : Signal =>
    .warning (id.shown ++ " only receives traces; its " ++ signal.name ++
      " pipelines were not wired")

/-- Whether a block is that of its instance, among the blocks of all accepted instances. -/
structure IsWired (p : Placement) : Prop where
  /-- The block is of the kind that the instance becomes. -/
  name : p.block.name = p.accepted.kind.component.segments
  label : p.block.label.isSome
  /-- The block of a receiver or of a processor has one nested block with the targets. -/
  output : p.accepted.id.cls ≠ .exporter → ∃ out : Block,
    p.block.blocks.filter (·.name = ["output"]) = [out] ∧
    out.body = outputBody (p.targets config placements) ∧
    ∀ signal, out.attribute? signal.name =
      if p.targets config placements signal = [] then none
      else some (.array (p.targets config placements signal))
  nodup : ∀ signal, (p.targets config placements signal).Nodup
  warnings : p.accepted.kind = .zipkinReceiver →
    p.findings.only .warning = unwired config p.accepted.id

end Placement

/-! ## Placements -/

namespace Config

variable (registry : Registry) (config : Config)

/-- The accepted instances with their blocks. -/
def placements : List Placement := (config.labelled registry).map fun e =>
  ⟨e.1, e.1.block (config.wired registry) e.2, e.1.report (config.wired registry) e.2⟩

variable {registry config}

theorem map_accepted_placements :
    (config.placements registry).map Placement.accepted = config.accepted registry := by
  rw [placements, List.map_map]
  exact map_fst_labelled

/-- The inputs of the followers of an instance are what it refers to. -/
theorem inputs_followers (id : InstanceId) (signal : Signal) :
    Placement.inputs (config.placements registry) (config.followers id signal) =
      ((config.wired registry).next id signal).map .ofDotted := by
  rw [next_wired, List.map_filterMap, Placement.inputs]
  refine congrArg (fun f => (config.followers id signal).filterMap f) (funext fun target => ?_)
  rw [placements, List.find?_map]
  show ((List.find? (fun e : Accepted × String => decide (e.1.id = target)) _).map _).bind _ = _
  cases hfind : (config.labelled registry).find? fun e => e.1.id = target with
  | none => rfl
  | some e =>
    have he := List.of_mem_zip (List.mem_of_find?_eq_some hfind)
    have hpath := ComponentKind.dotted_exportPath e.1.kind.isNamed_component
      (isIdentifier_labels e.2 he.2) (show isIdentifier "input" = true by decide)
    show some (Expr.path (e.1.kind.component.segments ++ [e.2, "input"])) = some (.path (dotted _))
    rw [hpath]

theorem targets_eq (e : Accepted × String) : Placement.targets config (config.placements registry)
      ⟨e.1, e.1.block (config.wired registry) e.2, e.1.report (config.wired registry) e.2⟩ =
      e.1.sent (config.wired registry) := by
  funext signal
  have hsignals : e.1.settings.signals.contains signal =
      !decide (e.1.kind = .zipkinReceiver ∧ signal ≠ .traces) := by
    unfold Accepted.kind
    cases e.1.settings <;> cases signal <;> rfl
  rw [Placement.targets, inputs_followers, Accepted.sent, hsignals]
  split
  · rename_i h
    simp [h]
  · rename_i h
    simp [h]

/-- No two placements have blocks of the same name and label. -/
theorem nodup_identity_placements :
    ((config.placements registry).map fun p => p.block.identity).Nodup := by
  have hnodup := (config.covers_convert registry).nodup
  rw [Draft.identities, blocks_convert, List.map_append] at hnodup
  have hplaced := hnodup.of_append_right
  rw [List.map_map] at hplaced
  rwa [placements, List.map_map]

/-- No two placements have the same input. -/
theorem nodup_inputs {ids : List InstanceId} (h : ids.Nodup) :
    (Placement.inputs (config.placements registry) ids).Nodup := by
  refine h.filterMap fun id id' path hp hp' => ?_
  obtain ⟨p, hfind, hp⟩ := Option.bind_eq_some_iff.1 hp
  obtain ⟨p', hfind', hp'⟩ := Option.bind_eq_some_iff.1 hp'
  obtain ⟨label, hlabel, rfl⟩ := Option.map_eq_some_iff.1 hp
  obtain ⟨label', hlabel', heq⟩ := Option.map_eq_some_iff.1 hp'
  obtain ⟨hname, hrest⟩ := List.append_inj' (Expr.path.inj heq) rfl
  have hidentity : p.block.identity = p'.block.identity := by
    rw [Block.identity, Block.identity, hlabel, hlabel', hname, (List.cons.inj hrest).1]
  have hsame : p = p' := List.inj_on_of_nodup_map nodup_identity_placements
    (List.mem_of_find?_eq_some hfind) (List.mem_of_find?_eq_some hfind') hidentity
  have hid : p.accepted.id = id := by simpa using List.find?_some hfind
  have hid' : p'.accepted.id = id' := by simpa using List.find?_some hfind'
  rw [← hid, ← hid', hsame]

theorem nodup_targets (p : Placement) (signal : Signal) :
    (p.targets config (config.placements registry) signal).Nodup := by
  unfold Placement.targets
  split
  · exact List.nodup_nil
  · exact nodup_inputs nodup_followers

/-- A receiver for traces is warned about once for each other signal for which it is followed. -/
theorem only_warning_report {a : Accepted} (h : a.kind = .zipkinReceiver) (label : String) :
    (a.report (config.wired registry) label).only .warning = Placement.unwired config a.id := by
  obtain ⟨id, settings⟩ := a
  cases settings with
  | zipkinReceiver s =>
    simp only [Accepted.report, Converter.losses, Converter.unwired, downstream_wired,
      Placement.unwired]
    by_cases hmetrics : config.followers id .metrics = [] <;>
      by_cases hlogs : config.followers id .logs = [] <;>
      simp [hmetrics, hlogs, Diagnostic.when, Diagnostics.only, Diagnostic.warning,
        Diagnostic.info, Diagnostic.of]
  | _ => exact absurd h (by simp [Accepted.kind, ComponentSettings.kind])

/-- The block of every accepted instance is wired. -/
theorem isWired_of_mem {p : Placement} (h : p ∈ config.placements registry) :
    p.IsWired config (config.placements registry) := by
  obtain ⟨e, he, rfl⟩ := List.mem_map.1 h
  have haccepted := (List.of_mem_zip he).1
  refine ⟨rfl, rfl, fun hcls => ?_, nodup_targets _, fun hkind => only_warning_report hkind e.2⟩
  rw [← cls_of_mem_accepted haccepted] at hcls
  have houtput := Accepted.output_block hcls (config.wired registry) e.2
  simp only [targets_eq]
  exact ⟨_, houtput, rfl, attribute?_outputBody _⟩

/-! ## The document -/

/-- The block for the collector's own logs is the only one without a label. -/
theorem logging_eq (logs : TelemetryLogs) : ∃ logging : Option Block,
    Draft.ofOption (Draft.block (.ofDotted "logging") "") logs.logging? =
      ⟨logging.toList, []⟩ ∧
    logging.isSome = logs.logging?.isSome ∧
    ∀ b ∈ logging, b.name = ["logging"] ∧ b.label = none := by
  cases h : logs.logging? with
  | none => exact ⟨none, rfl, rfl, by simp⟩
  | some args =>
    obtain ⟨fields, rfl, hfields⟩ := TelemetryLogs.logging?_fields h
    refine ⟨some _, Draft.block_eq hfields _ _, rfl, ?_⟩
    rintro b ⟨⟩
    exact ⟨show (ComponentKind.ofDotted "logging").segments = ["logging"] by decide, rfl⟩

end Config

/-- The document of a collector, converted with all converters: the block for its own logs, if it
says anything about them, and exactly one block for each accepted instance, in the order in which
the pipelines first name them, wired to the accepted instances right behind it. -/
theorem Config.document_wired (config : Config) :
    ∃ (logging : Option Block) (placements : List Placement),
      let draft := (SourceConfig.collector config).standalone .builtin
      draft.document =
        (logging.toList ++ placements.map Placement.block).map Block.statement ∧
      draft.findings = config.planFindings ++
        (config.fates .builtin).flatMap (fun (id, fate) => fate.findings id) ++
        placements.flatMap Placement.findings ∧
      logging.isSome = config.service.telemetry.logs.logging?.isSome ∧
      (∀ b ∈ logging, b.name = ["logging"] ∧ b.label = none) ∧
      placements.map Placement.accepted = config.usable ∧
      (∀ a, a ∈ placements.map Placement.accepted ↔ config.Accepts a) ∧
      (placements.map Placement.accepted).Pairwise (fun a b =>
        config.visits.idxOf a.id < config.visits.idxOf b.id) ∧
      ∀ p ∈ placements, p.IsWired config placements := by
  obtain ⟨logging, hlogging, hsome, hblock⟩ := logging_eq config.service.telemetry.logs
  have hdraft : (SourceConfig.collector config).standalone .builtin =
      (config.convert .builtin .empty).1 := rfl
  have hplaced : (config.placements .builtin).map Placement.accepted = config.usable := by
    rw [map_accepted_placements, accepted_builtin]
  refine ⟨logging, config.placements .builtin, ?_, ?_, hsome, hblock, hplaced, ?_, ?_,
    fun p => isWired_of_mem⟩
  · rw [hdraft, Draft.document, blocks_convert, hlogging, placements, List.map_map]
    rfl
  · rw [hdraft, convert_eq, hlogging, placements, List.flatMap_map]
    simp [Draft.report]
  · rw [hplaced]
    exact fun a => mem_usable
  · rw [hplaced]
    exact config.pairwise_usable

end AgentConvert.Collector
