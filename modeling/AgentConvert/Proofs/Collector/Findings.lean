import AgentConvert.Proofs.Collector.Wiring

/-!
# Findings on instances

What makes the settings of an instance unusable is told in errors (`Converter.concern_faults`), what
is left out of them in warnings (`Converter.concern_losses`); the messages open with the instance.
-/

namespace AgentConvert

namespace Diagnostics

variable {severity : Severity} {as bs : Diagnostics}

@[simp] theorem only_append : only severity (as ++ bs) = only severity as ++ only severity bs :=
  List.filter_append ..

theorem only_eq_nil (h : ∀ d ∈ as, d.severity ≠ severity) : only severity as = [] :=
  List.filter_eq_nil_iff.2 (by simpa using h)

end Diagnostics

namespace Collector

/-- Whether a message opens with an instance. -/
def InstanceId.Opens (id : InstanceId) (message : String) : Prop :=
  ∃ rest, message = id.shown ++ rest

@[simp] theorem InstanceId.opens_shown (id : InstanceId) (rest : String) :
    id.Opens (id.shown ++ rest) :=
  ⟨rest, rfl⟩

/-- Whether all findings have one severity and messages that open with an instance. -/
def Concern (severity : Severity) (id : InstanceId) (ds : Diagnostics) : Prop :=
  ∀ d ∈ ds, ∃ message, id.Opens message ∧ d = .of severity message

variable {severity : Severity} {id : InstanceId} {as bs : Diagnostics} {message : String}

theorem Concern.only_eq_nil (h : Concern severity id as) {other : Severity}
    (hne : severity ≠ other) :
    as.only other = [] := by
  refine Diagnostics.only_eq_nil fun d hd => ?_
  obtain ⟨message, -, rfl⟩ := h d hd
  exact hne

/-- Findings that would all be errors are none if there is no error. -/
theorem Concern.hasErrors_eq (h : Concern .error id as) : as.hasErrors = !as.isEmpty := by
  cases as with
  | nil => rfl
  | cons d ds =>
    obtain ⟨message, -, rfl⟩ := h d (List.mem_cons_self ..)
    rfl

theorem concern_nil : Concern severity id [] := fun _ h => absurd h List.not_mem_nil

theorem concern_append (ha : Concern severity id as) (hb : Concern severity id bs) :
    Concern severity id (as ++ bs) :=
  List.forall_mem_append.2 ⟨ha, hb⟩

theorem concern_singleton (h : id.Opens message) : Concern severity id [.of severity message] :=
  List.forall_mem_singleton.2 ⟨message, h, rfl⟩

theorem concern_when {condition : Bool} (h : id.Opens message) :
    Concern severity id (Diagnostic.when condition (.of severity message)) := by
  cases condition
  · exact concern_nil
  · exact concern_singleton h

theorem concern_map {α : Type} {items : List α} {message : α → String}
    (h : ∀ a, id.Opens (message a)) :
    Concern severity id (items.map fun a => .of severity (message a)) :=
  List.forall_mem_map.2 fun a _ => ⟨message a, h a, rfl⟩

namespace Converter

open InstanceId (opens_shown)

theorem concern_faults (kind : SourceKind) (id : InstanceId) (s : ComponentSettings) :
    Concern .error id (faults kind id s) := by
  unfold faults
  split
  · exact concern_nil
  · exact concern_nil
  · exact concern_nil
  · unfold BatchProcessor.faults
    split
    · exact concern_when (by simp [String.append_assoc])
    · exact concern_nil
  · exact concern_append (concern_when (opens_shown ..)) (concern_when (opens_shown ..))
  · exact concern_map fun mode => by simp [String.append_assoc]
  · exact concern_map fun action => by simp [String.append_assoc]
  · exact concern_when (opens_shown ..)
  · exact concern_when (opens_shown ..)
  · exact concern_singleton (by simp [String.append_assoc])

theorem concern_losses (w : Wiring) (id : InstanceId) (s : ComponentSettings) :
    Concern .warning id (losses w id s) := by
  cases s with
  | zipkinReceiver s =>
    exact concern_append (concern_when (by simp [String.append_assoc]))
      (concern_when (by simp [String.append_assoc]))
  | attributesProcessor s =>
    exact concern_append (concern_when (by simp [String.append_assoc]))
      (concern_when (by simp [String.append_assoc]))
  | otlpExporter s => exact concern_when (opens_shown ..)
  | otlpHttpExporter s => exact concern_when (opens_shown ..)
  | debugExporter s => exact concern_when (opens_shown ..)
  | otlpReceiver _ | batchProcessor _ | memoryLimiterProcessor _ | transformProcessor _ =>
    exact concern_nil

end Converter

end Collector

end AgentConvert
