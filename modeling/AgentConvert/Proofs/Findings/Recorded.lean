import AgentConvert.Draft
import AgentConvert.Proofs.Text.Lines

/-!
# Recorded findings

Findings enter a list one by one, each with its message on one line, or as another list
(`Diagnostics.Recorded`). So a list is recorded if each of its findings is (`recorded_iff`), and the
message of a recorded finding has no line feed (`Diagnostic.IsRecorded.lineFeed_not_mem`); recording
such a message keeps it (`oneLine_of_unbroken`).
-/

namespace AgentConvert

/-! ## Messages -/

/-- A message without a line feed is kept. -/
theorem oneLine_of_unbroken {message : String} (h : '\n' ∉ message.toList) :
    oneLine message = message := by
  rw [oneLine, if_neg (by simpa using h)]

theorem lineFeed_not_mem_oneLine (message : String) : '\n' ∉ (oneLine message).toList := by
  unfold oneLine
  split
  · refine Text.lineFeed_not_mem_intercalate (by decide) fun part hpart => ?_
    obtain ⟨line, hline, rfl⟩ := List.mem_map.1 (List.mem_filter.1 hpart).1
    obtain ⟨cs, hcs, rfl⟩ := List.mem_map.1 hline
    refine Text.lineFeed_not_mem_trim ?_
    rw [String.toList_ofList]
    exact Text.lineFeed_not_mem_linesOfChars _ cs hcs
  · rename_i h
    simpa using h

/-! ## Findings -/

namespace Diagnostic

/-- Whether the message of a finding was put on one line. -/
def IsRecorded (d : Diagnostic) : Prop := ∃ severity message, d = .of severity message

variable {d : Diagnostic}

@[simp] theorem isRecorded_of (severity : Severity) (message : String) :
    (of severity message).IsRecorded :=
  ⟨severity, message, rfl⟩

@[simp] theorem isRecorded_info (message : String) : (info message).IsRecorded := isRecorded_of _ _

@[simp] theorem isRecorded_warning (message : String) : (warning message).IsRecorded :=
  isRecorded_of _ _

@[simp] theorem isRecorded_error (message : String) : (error message).IsRecorded :=
  isRecorded_of _ _

theorem IsRecorded.lineFeed_not_mem (h : d.IsRecorded) : '\n' ∉ d.message.toList := by
  obtain ⟨severity, message, rfl⟩ := h
  exact lineFeed_not_mem_oneLine message

/-- The message of a recorded finding is kept when it is recorded again. -/
theorem IsRecorded.of_message (h : d.IsRecorded) (severity : Severity) :
    of severity d.message = ⟨severity, d.message⟩ := by
  rw [of, oneLine_of_unbroken h.lineFeed_not_mem]

end Diagnostic

/-! ## Lists of findings -/

namespace Diagnostics

/-- Whether a list of findings is recorded: nothing, one more finding behind a recorded list, or a
recorded list behind another one. -/
inductive Recorded : Diagnostics → Prop
  | empty : Recorded []
  | add {ds : Diagnostics} (h : Recorded ds) (severity : Severity) (message : String) :
    Recorded (ds ++ [.of severity message])
  | addAll {ds others : Diagnostics} (h : Recorded ds) (hothers : Recorded others) :
    Recorded (ds ++ others)

variable {as bs ds : Diagnostics} {d : Diagnostic}

/-- A list is recorded if each of its findings is. -/
theorem recorded_iff : Recorded ds ↔ ∀ d ∈ ds, d.IsRecorded := by
  constructor
  · intro h
    induction h with
    | empty => simp
    | add h severity message ih => exact List.forall_mem_append.2 ⟨ih, by simp⟩
    | addAll h hothers ih ihothers => exact List.forall_mem_append.2 ⟨ih, ihothers⟩
  · intro h
    induction ds with
    | nil => exact .empty
    | cons d ds ih =>
      obtain ⟨⟨severity, message, rfl⟩, hds⟩ := List.forall_mem_cons.1 h
      exact .addAll (.add .empty severity message) (ih hds)

@[simp] theorem recorded_nil : Recorded [] := .empty

@[simp] theorem recorded_cons : Recorded (d :: ds) ↔ d.IsRecorded ∧ Recorded ds := by
  simp only [recorded_iff, List.forall_mem_cons]

@[simp] theorem recorded_append : Recorded (as ++ bs) ↔ Recorded as ∧ Recorded bs := by
  simp only [recorded_iff, List.forall_mem_append]

theorem recorded_map {α : Type} {items : List α} {f : α → Diagnostic}
    (h : ∀ a ∈ items, (f a).IsRecorded) : Recorded (items.map f) :=
  recorded_iff.2 (List.forall_mem_map.2 h)

theorem recorded_flatMap {α : Type} {items : List α} {f : α → Diagnostics}
    (h : ∀ a ∈ items, Recorded (f a)) : Recorded (items.flatMap f) := by
  refine recorded_iff.2 fun d hd => ?_
  obtain ⟨a, ha, hd⟩ := List.mem_flatMap.1 hd
  exact recorded_iff.1 (h a ha) d hd

theorem recorded_filterMap {α : Type} {items : List α} {f : α → Option Diagnostic}
    (h : ∀ a ∈ items, ∀ d ∈ f a, d.IsRecorded) : Recorded (items.filterMap f) := by
  refine recorded_iff.2 fun d hd => ?_
  obtain ⟨a, ha, hd⟩ := List.mem_filterMap.1 hd
  exact h a ha d hd

theorem recorded_when {condition : Bool} (h : d.IsRecorded) :
    Recorded (Diagnostic.when condition d) := by
  cases condition with
  | false => exact .empty
  | true => simpa [Diagnostic.when] using h

end Diagnostics

/-! ## Drafts -/

namespace Draft

open Diagnostics

@[simp] theorem recorded_blockWith (hook : Override Unit) (kind : ComponentKind) (label : String)
    (args : Argument) : Recorded (blockWith hook kind label args).findings := by
  unfold blockWith
  split <;> simp

@[simp] theorem recorded_block (kind : ComponentKind) (label : String) (args : Argument) :
    Recorded (block kind label args).findings :=
  recorded_blockWith noOverride kind label args

theorem recorded_concat {ds : List Draft} (h : ∀ d ∈ ds, Recorded d.findings) :
    Recorded (concat ds).findings :=
  recorded_flatMap h

theorem recorded_when {d : Draft} (condition : Bool) (h : Recorded d.findings) :
    Recorded (when condition d).findings := by
  cases condition with
  | false => exact .empty
  | true => exact h

theorem recorded_ofOption {α : Type} {f : α → Draft} {o : Option α}
    (h : ∀ a, Recorded (f a).findings) : Recorded (ofOption f o).findings := by
  cases o with
  | none => exact .empty
  | some a => exact h a

end Draft

end AgentConvert
