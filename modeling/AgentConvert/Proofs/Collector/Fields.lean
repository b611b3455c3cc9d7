import AgentConvert.Collector.Conversion
import AgentConvert.Proofs.Settings.Fields

/-!
# Fields of a collector's components

The arguments of every component of a collector can stand in a block, if its numbers are finite
(`ComponentSettings.IsFinite`). The only references are those of the nested block that says where
data goes.
-/

namespace AgentConvert

open Argument

variable {p : Special → Prop}

/-! ## Opaque bodies -/

mutual
theorem Json.isValue_argument : ∀ j : Json, j.argument.IsValue p
  | .null | .bool _ | .int _ | .text _ => trivial
  | .float .. => rfl
  | .list items => areValues_argumentItems items
  | .object fields => areFieldValues_argumentFields fields

theorem Json.areValues_argumentItems : ∀ items : List Json, AreValues p (argumentItems items)
  | [] => trivial
  | j :: rest => ⟨isValue_argument j, areValues_argumentItems rest⟩

theorem Json.areFieldValues_argumentFields : ∀ fields : List (String × Json),
    AreFieldValues p (argumentFields fields)
  | [] => trivial
  | (_, j) :: rest => ⟨isValue_argument j, areFieldValues_argumentFields rest⟩
end

@[simp] theorem Json.isPart_argument (j : Json) : j.argument.IsPart p :=
  isPart_of_isValue _ j.isValue_argument

namespace Collector

variable {refs : List String} {holes : List Placeholder} {output : Argument}

/-! ## Receivers -/

@[simp] theorem areParts_sizeField (name : String) (size : Option UInt64) :
    AreParts p (sizeField name size) := by
  simp [sizeField]

@[simp] theorem ServerTls.isPart_block (tls : ServerTls) : tls.block.IsPart p := by
  simp [block]

@[simp] theorem GrpcServer.isPart_block (g : GrpcServer) : g.block.IsPart p := by
  simp [block]

@[simp] theorem Cors.isPart_block (c : Cors) : c.block.IsPart p := by
  simp [block]

@[simp] theorem HttpServer.isPart_block (h : HttpServer) : h.block.IsPart p := by
  simp [block]

theorem OtlpReceiver.areParts_arguments (r : OtlpReceiver) (h : output.IsPart p) :
    AreParts p (r.arguments output) := by
  simp [arguments, h]

theorem ZipkinReceiver.areParts_arguments (r : ZipkinReceiver) (h : output.IsPart p) :
    AreParts p (r.arguments output) := by
  simp [arguments, h]

/-! ## Processors -/

theorem BatchProcessor.areParts_arguments (b : BatchProcessor) (h : output.IsPart p) :
    AreParts p (b.arguments output) := by
  simp [arguments, h]

theorem MemoryLimiter.areParts_arguments (m : MemoryLimiter) (h : output.IsPart p) :
    AreParts p (m.arguments output) := by
  simp [arguments, h]

@[simp] theorem StatementGroup.isPart_blocks (groups : List StatementGroup) :
    (Argument.list (groups.map StatementGroup.block)).IsPart p :=
  isPart_list_blocks groups fun g => ⟨rfl, by simp [block]⟩

theorem TransformProcessor.areParts_arguments (t : TransformProcessor) (h : output.IsPart p) :
    AreParts p (t.arguments output) := by
  simp [arguments, groupsField, h]

@[simp] theorem AttributeAction.isPart_blocks (actions : List AttributeAction) :
    (Argument.list (actions.map AttributeAction.block)).IsPart p :=
  isPart_list_blocks actions fun a => ⟨rfl, by simp [block]⟩

theorem AttributesProcessor.areParts_arguments (a : AttributesProcessor) (h : output.IsPart p) :
    AreParts p (a.arguments output) := by
  simp [arguments, h]

/-! ## Exporters -/

@[simp] theorem ClientTls.isPart_block (tls : ClientTls) : tls.block.IsPart p := by
  simp [block]

@[simp] theorem SendingQueue.isPart_block (q : SendingQueue) : q.block.IsPart p := by
  simp [block]

/-- Whether the numbers of the settings are finite. -/
def RetryOnFailure.IsFinite (r : RetryOnFailure) : Prop :=
  (∀ x ∈ r.multiplier, x.isFinite = true) ∧ ∀ x ∈ r.randomizationFactor, x.isFinite = true

theorem RetryOnFailure.isPart_block {r : RetryOnFailure} (h : r.IsFinite) : r.block.IsPart p := by
  have hfloat : ∀ x : Binary64, (Argument.float x).IsPart p ↔ x.isFinite = true := fun _ => .rfl
  simpa [block, hfloat, IsFinite] using h

theorem OtlpExporter.areParts_arguments {e : OtlpExporter}
    (h : ∀ r ∈ e.retryOnFailure, r.IsFinite) : AreParts p e.arguments := by
  have hretry : ∀ r ∈ e.retryOnFailure, r.block.IsPart p := fun r hr => RetryOnFailure.isPart_block (h r hr)
  simpa [arguments] using hretry

theorem OtlpHttpExporter.areParts_arguments {e : OtlpHttpExporter}
    (h : ∀ r ∈ e.retryOnFailure, r.IsFinite) : AreParts p e.arguments := by
  have hretry : ∀ r ∈ e.retryOnFailure, r.block.IsPart p := fun r hr => RetryOnFailure.isPart_block (h r hr)
  simpa [arguments] using hretry

@[simp] theorem DebugExporter.areParts_arguments (e : DebugExporter) : AreParts p e.arguments := by
  simp [arguments]

/-! ## Components -/

namespace ComponentSettings

/-- Whether the numbers among the settings of a component are finite. -/
def IsFinite : ComponentSettings → Prop
  | otlpExporter e => ∀ r ∈ e.retryOnFailure, r.IsFinite
  | otlpHttpExporter e => ∀ r ∈ e.retryOnFailure, r.IsFinite
  | _ => True

/-- The arguments of a component, with the block that says where its data goes. -/
def arguments (output : Argument) : ComponentSettings → Fields
  | otlpReceiver s => s.arguments output
  | zipkinReceiver s => s.arguments output
  | batchProcessor s => s.arguments output
  | memoryLimiterProcessor s => s.arguments output
  | transformProcessor s => s.arguments output
  | attributesProcessor s => s.arguments output
  | otlpExporter s => s.arguments
  | otlpHttpExporter s => s.arguments
  | debugExporter s => s.arguments

theorem areParts_arguments {s : ComponentSettings} (hs : s.IsFinite) (h : output.IsPart p) :
    AreParts p (s.arguments output) := by
  cases s with
  | otlpReceiver s => exact s.areParts_arguments h
  | zipkinReceiver s => exact s.areParts_arguments h
  | batchProcessor s => exact s.areParts_arguments h
  | memoryLimiterProcessor s => exact s.areParts_arguments h
  | transformProcessor s => exact s.areParts_arguments h
  | attributesProcessor s => exact s.areParts_arguments h
  | otlpExporter s => exact OtlpExporter.areParts_arguments hs
  | otlpHttpExporter s => exact OtlpHttpExporter.areParts_arguments hs
  | debugExporter s => exact s.areParts_arguments

end ComponentSettings

/-- The block that says where an instance sends its data. -/
theorem Wiring.isPart_output {w : Wiring} {id : InstanceId} {signals : List Signal}
    (h : ∀ signal ∈ signals, ∀ path ∈ w.next id signal, path ∈ refs) :
    (w.output id signals).IsPart (Special.Uses refs holes) := by
  refine areParts_flatMap fun signal _ => ?_
  rw [Field.areParts_unlessNil]
  intro _
  rw [isPart_references]
  intro path hpath
  dsimp only at hpath
  split at hpath
  · rename_i hs
    exact h signal (List.contains_iff_mem.1 hs) path hpath
  · exact absurd hpath (by simp)

end Collector

end AgentConvert
