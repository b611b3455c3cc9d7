import AgentConvert.Proofs.Argument.Paths
import AgentConvert.Settings.Targets

/-!
# Fields of blocks

The ways in which settings become fields put every field where a block can have it. These facts let
`simp` prove `Argument.AreParts` for the arguments of a component, field by field.
-/

namespace AgentConvert

namespace Argument

variable {p : Special → Prop}

attribute [simp] areParts_append

@[simp] theorem areParts_nil : AreParts p [] := trivial

/-- A value can stand in a block. -/
theorem isPart_of_isValue : ∀ a : Argument, a.IsValue p → a.IsPart p
  | .wrapped a, h => isPart_of_isValue a h
  | .list _, h => .inl h
  | .absent, h | .unit, h | .bool _, h | .int _, h | .float _, h | .text _, h | .record _, h
  | .special .., h | .concat _, h => h
  | .map _, h | .keyless _, h | .variant .., h | .block _, h | .unsupported _, h | .failing _, h =>
    h.elim

/-- Fields with values can stand in a block. -/
theorem areParts_of_areFieldValues {fields : Fields} (h : AreFieldValues p fields) :
    AreParts p fields := by
  induction fields with
  | nil => trivial
  | cons e fields ih => exact ⟨isPart_of_isValue e.2 h.1, ih h.2⟩

theorem areParts_flatMap {α : Type} {f : α → Fields} {items : List α}
    (h : ∀ a ∈ items, AreParts p (f a)) : AreParts p (items.flatMap f) := by
  induction items with
  | nil => trivial
  | cons a items ih =>
    rw [List.flatMap_cons, areParts_append]
    exact ⟨h a (List.mem_cons_self ..), ih fun b hb => h b (List.mem_cons_of_mem _ hb)⟩

/-! ## Arguments -/

@[simp] theorem isPart_text (s : String) : (Argument.text s).IsPart p := trivial

@[simp] theorem isPart_bool (b : Bool) : (Argument.bool b).IsPart p := trivial

@[simp] theorem isPart_uint16 (n : UInt16) : (uint16 n).IsPart p := trivial

@[simp] theorem isPart_uint32 (n : UInt32) : (uint32 n).IsPart p := trivial

@[simp] theorem isPart_uint64 (n : UInt64) : (uint64 n).IsPart p := trivial

@[simp] theorem isPart_duration (d : Duration) : (duration d).IsPart p := trivial

@[simp] theorem isPart_texts (items : List String) : (texts items).IsPart p := by
  refine .inl ((areValues_iff _).2 fun a ha => ?_)
  obtain ⟨s, -, rfl⟩ := List.mem_map.1 ha
  trivial

@[simp] theorem areFieldValues_append (as bs : Fields) :
    AreFieldValues p (as ++ bs) ↔ AreFieldValues p as ∧ AreFieldValues p bs := by
  simp only [areFieldValues_iff, List.forall_mem_append]

@[simp] theorem isPart_labels (d : Dictionary String) : (labels d).IsPart p := by
  refine (areFieldValues_iff _).2 fun e he => ?_
  obtain ⟨l, -, rfl⟩ := List.mem_map.1 he
  trivial

@[simp] theorem isPart_secret (s : Secret) : (secret s).IsPart p ↔ p (.secret s.text) :=
  ⟨fun h => h.2, fun h => ⟨⟨_, rfl⟩, h⟩⟩

@[simp] theorem isPart_regex (s : String) : (regex s).IsPart p ↔ p (.regex s) :=
  ⟨fun h => h.2, fun h => ⟨⟨_, rfl⟩, h⟩⟩

theorem isValue_reference (path : String) : (reference path).IsValue p ↔ p (.reference path) :=
  ⟨fun h => h.2, fun h => ⟨⟨_, rfl⟩, h⟩⟩

@[simp] theorem isPart_reference (path : String) :
    (reference path).IsPart p ↔ p (.reference path) :=
  isValue_reference path

theorem areValues_references (paths : List String) :
    AreValues p (paths.map reference) ↔ ∀ path ∈ paths, p (.reference path) := by
  simp [areValues_iff, isValue_reference]

@[simp] theorem isPart_references (paths : List String) :
    (references paths).IsPart p ↔ ∀ path ∈ paths, p (.reference path) := by
  rw [← areValues_references]
  refine ⟨?_, .inl⟩
  rintro (h | ⟨-, h⟩)
  · exact h
  · cases paths with
    | nil => trivial
    | cons path paths => exact absurd h.1.1 Bool.false_ne_true

@[simp] theorem isPart_concat_references (paths : List String) :
    (Argument.concat (references paths)).IsPart p ↔ ∀ path ∈ paths, p (.reference path) := by
  rw [← areValues_references]
  exact ⟨fun h => h.2, fun h => ⟨rfl, h⟩⟩

@[simp] theorem isPart_placeholder (h : Placeholder) :
    (placeholder h).IsPart p ↔ p (.placeholder h) := by
  have hspecial : ofPayload .placeholder (.text h.name) = .placeholder h := by cases h <;> rfl
  show IsPayload .placeholder (.text h.name) ∧ p (ofPayload .placeholder (.text h.name)) ↔ _
  rw [hspecial]
  exact ⟨fun hp => hp.2, fun hp => ⟨⟨h, rfl⟩, hp⟩⟩

@[simp] theorem isPart_targets (ts : List Target) : (targets ts).IsPart p ↔ p (.targets ts) := by
  have hspecial : ofPayload .targets (.list (ts.map target)) = .targets ts := by
    rw [ofPayload, payloadTargets_targets]
  show IsPayload .targets (.list (ts.map target)) ∧ p (ofPayload .targets (.list (ts.map target))) ↔
    _
  rw [hspecial]
  exact ⟨fun hp => hp.2, fun hp => ⟨⟨ts, rfl⟩, hp⟩⟩

@[simp] theorem isPart_blockOf (fields : Fields) : (blockOf fields).IsPart p ↔ AreParts p fields :=
  .rfl

/-- A list of blocks, none or more. -/
theorem isPart_list_blocks {α : Type} {f : α → Argument} (items : List α)
    (h : ∀ a, (f a).isBlock = true ∧ (f a).IsPart p) : (Argument.list (items.map f)).IsPart p := by
  cases items with
  | nil => exact .inl trivial
  | cons a items =>
    refine .inr ⟨by simp, (areBlocks_iff _).2 fun b hb => ?_⟩
    obtain ⟨a, -, rfl⟩ := List.mem_map.1 hb
    exact h a

end Argument

namespace Field

open Argument

variable {p : Special → Prop} {α : Type}

/-! ## Fields -/

@[simp] theorem areParts_always (name : String) (a : Argument) :
    AreParts p (always name a) ↔ a.IsPart p :=
  ⟨fun h => h.1, fun h => ⟨h, trivial⟩⟩

@[simp] theorem areFieldValues_always (name : String) (a : Argument) :
    AreFieldValues p (always name a) ↔ a.IsValue p :=
  ⟨fun h => h.1, fun h => ⟨h, trivial⟩⟩

@[simp] theorem areParts_optional (name : String) (f : α → Argument) (value : Option α) :
    AreParts p (optional name f value) ↔ ∀ a ∈ value, (f a).IsPart p := by
  cases value with
  | none => exact ⟨fun _ => by simp, fun _ => ⟨trivial, trivial⟩⟩
  | some a => exact ⟨fun h => by rintro b ⟨⟩; exact h.1, fun h => ⟨h a rfl, trivial⟩⟩

@[simp] theorem areFieldValues_optional (name : String) (f : α → Argument) (value : Option α) :
    AreFieldValues p (optional name f value) ↔ ∀ a ∈ value, (f a).IsValue p := by
  cases value with
  | none => exact ⟨fun _ => by simp, fun _ => ⟨trivial, trivial⟩⟩
  | some a => exact ⟨fun h => by rintro b ⟨⟩; exact h.1, fun h => ⟨h a rfl, trivial⟩⟩

@[simp] theorem areParts_unlessNil (name : String) (f : List α → Argument) (items : List α) :
    AreParts p (unlessNil name f items) ↔ (items ≠ [] → (f items).IsPart p) := by
  unfold unlessNil
  cases items with
  | nil => simp
  | cons a items => exact ⟨fun h _ => h.1, fun h => ⟨h (by simp), trivial⟩⟩

@[simp] theorem areParts_unlessEmpty (name : String) (d : Dictionary String) :
    AreParts p (unlessEmpty name d) := by
  unfold unlessEmpty
  split
  · trivial
  · exact ⟨isPart_labels d, trivial⟩

@[simp] theorem areFieldValues_whenOn (name : String) (on : Bool) :
    AreFieldValues p (whenOn name on) := by
  unfold whenOn
  split
  · exact ⟨trivial, trivial⟩
  · trivial

@[simp] theorem areParts_whenOn (name : String) (on : Bool) : AreParts p (whenOn name on) :=
  areParts_of_areFieldValues (areFieldValues_whenOn name on)

end Field

end AgentConvert
