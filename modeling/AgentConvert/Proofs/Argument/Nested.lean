import AgentConvert.Proofs.Argument.Fields

/-!
# Names of nested blocks

The nested blocks of a body come from its fields. Unless a field holds one of several alternatives,
they take the field's name (`Argument.TakesName`), so fields with other names avoid a name
(`Argument.Avoids`). These facts let `simp` prove that a component has no other block of a name.
-/

namespace AgentConvert

theorem Block.blocks_mk (path : List String) (label : Option String) (body : Body) :
    Block.blocks ⟨path, label, body⟩ = Body.blocks body :=
  rfl

theorem Body.blocks_append (a b : Body) : Body.blocks (a ++ b) = Body.blocks a ++ Body.blocks b :=
  List.filterMap_append

namespace Argument

variable {p : Special → Prop} {name : List String}

/-! ## Names of nested blocks -/

/-- Whether the nested blocks that an argument stands for take the name of its field. -/
def TakesName (a : Argument) : Prop :=
  ∀ (f : Special → Expr) (field : String), ∀ b ∈ Body.blocks (a.part f field), b.name = dotted field

/-- A value stands for no block. -/
theorem blocks_part_value (f : Special → Expr) (field : String) {a : Argument} (h : a.IsValue p) :
    Body.blocks (a.part f field) = [] := by
  rw [part_value field a h]
  split <;> rfl

/-- Fields with values stand for no block. -/
theorem blocks_parts_values (f : Special → Expr) {fields : Fields} (h : AreFieldValues p fields) :
    Body.blocks (parts f fields) = [] := by
  induction fields with
  | nil => rfl
  | cons e fields ih =>
    rw [parts, Body.blocks_append, blocks_part_value f e.1 h.1, ih h.2, List.append_nil]

theorem takesName_of_isValue {a : Argument} (h : a.IsValue p) : a.TakesName := by
  intro f field b hb
  rw [blocks_part_value f field h] at hb
  exact absurd hb List.not_mem_nil

@[simp] theorem takesName_text (s : String) : (Argument.text s).TakesName :=
  takesName_of_isValue (p := fun _ => True) trivial

@[simp] theorem takesName_bool (b : Bool) : (Argument.bool b).TakesName :=
  takesName_of_isValue (p := fun _ => True) trivial

@[simp] theorem takesName_uint16 (n : UInt16) : (uint16 n).TakesName :=
  takesName_of_isValue (p := fun _ => True) trivial

@[simp] theorem takesName_uint64 (n : UInt64) : (uint64 n).TakesName :=
  takesName_of_isValue (p := fun _ => True) trivial

@[simp] theorem takesName_uint32 (n : UInt32) : (uint32 n).TakesName :=
  takesName_of_isValue (p := fun _ => True) trivial

@[simp] theorem takesName_duration (d : Duration) : (duration d).TakesName :=
  takesName_of_isValue (p := fun _ => True) trivial

@[simp] theorem takesName_texts (items : List String) : (texts items).TakesName := by
  refine takesName_of_isValue (p := fun _ => True) ((areValues_iff _).2 fun a ha => ?_)
  obtain ⟨s, -, rfl⟩ := List.mem_map.1 ha
  trivial

@[simp] theorem takesName_placeholder (h : Placeholder) : (placeholder h).TakesName :=
  takesName_of_isValue (p := fun _ => True) ⟨⟨h, rfl⟩, trivial⟩

@[simp] theorem takesName_record (fields : Fields) : (Argument.record fields).TakesName :=
  fun _ _ _ hb => absurd hb List.not_mem_nil

@[simp] theorem takesName_labels (d : Dictionary String) : (labels d).TakesName :=
  takesName_record _

@[simp] theorem takesName_references (paths : List String) : (references paths).TakesName :=
  takesName_of_isValue (p := fun _ => True) ((areValues_references paths).2 fun _ _ => trivial)

@[simp] theorem takesName_blockOf (fields : Fields) : (blockOf fields).TakesName := by
  intro f field b hb
  obtain rfl := List.mem_singleton.1 hb
  rfl

theorem blocks_itemParts {α : Type} (g : α → Fields) (f : Special → Expr) (field : String)
    (items : List α) : ∀ b ∈ Body.blocks (itemParts f field (items.map fun a => blockOf (g a))),
      b.name = dotted field := by
  induction items with
  | nil => exact fun b hb => absurd hb List.not_mem_nil
  | cons a items ih =>
    intro b hb
    rw [List.map_cons, itemParts, Body.blocks_append] at hb
    rcases List.mem_append.1 hb with hb | hb
    · exact takesName_blockOf (g a) f field b hb
    · exact ih b hb

theorem takesName_list_blocks {α : Type} (g : α → Fields) (items : List α) :
    (Argument.list (items.map fun a => blockOf (g a))).TakesName := by
  intro f field b hb
  rw [part] at hb
  split at hb
  · exact blocks_itemParts g f field items b hb
  · exact absurd hb List.not_mem_nil

/-- A value stands for no block, so only the other fields do. -/
theorem blocks_value (f : Special → Expr) (field : String) {a : Argument} (h : a.IsValue p)
    (rest : Fields) :
    Body.blocks (parts f (Field.always field a ++ rest)) = Body.blocks (parts f rest) := by
  rw [parts_append, Body.blocks_append, Field.always, parts, parts, List.append_nil,
    blocks_part_value f field h, List.nil_append]

/-- The blocks of a list are those of its items, in order. -/
theorem blocks_list {α : Type} (f : Special → Expr) (field : String) {g : α → Argument}
    (h : ∀ a, (g a).isBlock = true ∧ (g a).IsPart p) (items : List α) :
    Body.blocks (parts f (Field.always field (.list (items.map g)))) =
      items.flatMap fun a => Body.blocks ((g a).part f field) := by
  rw [Field.always, parts, parts, List.append_nil]
  cases items with
  | nil => rfl
  | cons a items =>
    have hblocks : AreBlocks p ((a :: items).map g) := by
      refine (areBlocks_iff _).2 fun b hb => ?_
      obtain ⟨a, -, rfl⟩ := List.mem_map.1 hb
      exact h a
    rw [part_blocks field (by simp) hblocks]
    generalize a :: items = items
    induction items with
    | nil => rfl
    | cons a items ih =>
      rw [List.map_cons, itemParts, Body.blocks_append, ih, List.flatMap_cons]

/-- Whether fields stand for no block of this name. -/
def Avoids (name : List String) (fields : Fields) : Prop :=
  ∀ f, ∀ b ∈ Body.blocks (parts f fields), b.name ≠ name

@[simp] theorem avoids_nil : Avoids name [] := fun _ _ hb => absurd hb List.not_mem_nil

@[simp] theorem avoids_append {as bs : Fields} :
    Avoids name (as ++ bs) ↔ Avoids name as ∧ Avoids name bs := by
  simp only [Avoids, parts_append, Body.blocks_append, List.forall_mem_append, forall_and]

/-- A field with another name stands for no block of this name. -/
theorem avoids_field {field : String} {a : Argument} (ha : a.TakesName)
    (h : dotted field ≠ name) : Avoids name [(field, a)] := by
  intro f b hb
  rw [parts, parts, List.append_nil] at hb
  rw [ha f field b hb]
  exact h

end Argument

namespace Field

open Argument

variable {name : List String} {field : String} {α : Type}

@[simp] theorem avoids_always {a : Argument} (ha : a.TakesName) (h : dotted field ≠ name) :
    Avoids name (always field a) :=
  avoids_field ha h

@[simp] theorem avoids_optional {f : α → Argument} {value : Option α} (ha : ∀ a, (f a).TakesName)
    (h : dotted field ≠ name) : Avoids name (optional field f value) := by
  cases value with
  | none => exact avoids_field (takesName_of_isValue (p := fun _ => True) trivial) h
  | some a => exact avoids_field (ha a) h

@[simp] theorem avoids_unlessNil {f : List α → Argument} {items : List α}
    (ha : ∀ items, (f items).TakesName) (h : dotted field ≠ name) :
    Avoids name (unlessNil field f items) := by
  unfold unlessNil
  split
  · exact avoids_nil
  · exact avoids_field (ha items) h

@[simp] theorem avoids_whenOn {on : Bool} (h : dotted field ≠ name) :
    Avoids name (whenOn field on) := by
  unfold whenOn
  split
  · exact avoids_field (takesName_bool true) h
  · exact avoids_nil

end Field

end AgentConvert
