import AgentConvert.Proofs.Argument.Fields

/-!
# Attributes of blocks

The value of an attribute comes from the field of its name: other fields stand for blocks or for
attributes of their own name (`Argument.attribute?_part`). So an attribute can be looked up field by
field (`Argument.attribute?_parts_append`), past all fields that lack the name (`Fields.Lacks`).
-/

namespace AgentConvert

/-- The value of the first attribute with this name. -/
def Body.attribute? (body : Body) (name : String) : Option Expr :=
  body.findSome? fun
    | .attribute n value => if n == name then some value else none
    | .block .. => none

theorem Block.attribute?_mk (path : List String) (label : Option String) (body : Body)
    (name : String) : Block.attribute? ⟨path, label, body⟩ name = body.attribute? name :=
  rfl

theorem Body.attribute?_append (a b : Body) (name : String) :
    Body.attribute? (a ++ b) name = (Body.attribute? a name).or (Body.attribute? b name) :=
  List.findSome?_append

/-! ## Names of fields -/

/-- Whether no field has this name. -/
def Lacks (name : String) (fields : Fields) : Prop := name ∉ fields.map Prod.fst

variable {name field : String}

@[simp] theorem lacks_nil : Lacks name [] := List.not_mem_nil

@[simp] theorem lacks_append {as bs : Fields} :
    Lacks name (as ++ bs) ↔ Lacks name as ∧ Lacks name bs := by
  simp [Lacks]

theorem lacks_field (a : Argument) (h : name ≠ field) : Lacks name [(field, a)] := by
  simpa [Lacks] using h

namespace Field

variable {α : Type}

@[simp] theorem lacks_always {a : Argument} (h : name ≠ field) : Lacks name (always field a) :=
  lacks_field a h

@[simp] theorem lacks_optional {f : α → Argument} {value : Option α} (h : name ≠ field) :
    Lacks name (optional field f value) :=
  lacks_field _ h

@[simp] theorem lacks_unlessNil {f : List α → Argument} {items : List α} (h : name ≠ field) :
    Lacks name (unlessNil field f items) := by
  unfold unlessNil
  split
  · exact lacks_nil
  · exact lacks_field _ h

@[simp] theorem lacks_unlessEmpty {d : Dictionary String} (h : name ≠ field) :
    Lacks name (unlessEmpty field d) := by
  unfold unlessEmpty
  split
  · exact lacks_nil
  · exact lacks_field _ h

@[simp] theorem lacks_whenOn {on : Bool} (h : name ≠ field) : Lacks name (whenOn field on) := by
  unfold whenOn
  split
  · exact lacks_field _ h
  · exact lacks_nil

end Field

/-! ## Looking up -/

namespace Argument

variable {p : Special → Prop} {f : Special → Expr}

/-- A block has fields. -/
theorem exists_fields {a : Argument} (h : (block a).IsPart p) : ∃ fields, a = .record fields := by
  cases a with
  | record fields => exact ⟨fields, rfl⟩
  | _ => exact absurd h not_false

/-- A block stands for no attribute. -/
theorem attribute?_block (name field : String) : ∀ a : Argument, a.isBlock = true → a.IsPart p →
    Body.attribute? (a.part f field) name = none
  | .wrapped a, hb, h => attribute?_block name field a hb h
  | .variant own a, hb, h => attribute?_block name own a hb h.2
  | .block a, _, h => by
    obtain ⟨fields, rfl⟩ := exists_fields h
    rfl
  | .absent, hb, _ | .unit, hb, _ | .bool _, hb, _ | .int _, hb, _ | .float _, hb, _
  | .text _, hb, _ | .list _, hb, _ | .record _, hb, _ | .map _, hb, _ | .keyless _, hb, _
  | .special .., hb, _ | .concat _, hb, _ | .unsupported _, hb, _ | .failing _, hb, _ =>
    absurd hb Bool.false_ne_true

theorem attribute?_itemParts (name field : String) {items : List Argument}
    (h : AreBlocks p items) : Body.attribute? (itemParts f field items) name = none := by
  induction items with
  | nil => rfl
  | cons a rest ih =>
    rw [itemParts, Body.attribute?_append, attribute?_block name field a h.1.1 h.1.2, ih h.2]
    rfl

theorem attribute?_value {a : Argument} (h : a.IsValue p) (hne : name ≠ field) :
    Body.attribute? (a.part f field) name = none := by
  rw [part_value field a h]
  split
  · rfl
  · simp [Body.attribute?, Ne.symm hne]

/-- A field stands for no attribute of another name. -/
theorem attribute?_part (hne : name ≠ field) : ∀ a : Argument, a.IsPart p →
    Body.attribute? (a.part f field) name = none
  | .block a, h => attribute?_block name field (.block a) rfl h
  | .variant own a, h => attribute?_block name own a h.1 h.2
  | .wrapped a, h => attribute?_part hne a h
  | .list items, h => by
    rcases h with h | ⟨hitems, h⟩
    · exact attribute?_value (a := .list items) h hne
    · rw [part_blocks field hitems h]
      exact attribute?_itemParts name field h
  | .absent, h | .unit, h | .bool _, h | .int _, h | .float _, h | .text _, h | .record _, h
  | .special .., h | .concat _, h => attribute?_value h hne
  | .map _, h | .keyless _, h | .unsupported _, h | .failing _, h => absurd h not_false

theorem attribute?_parts_append (as bs : Fields) (name : String) :
    Body.attribute? (parts f (as ++ bs)) name =
      (Body.attribute? (parts f as) name).or (Body.attribute? (parts f bs) name) := by
  rw [parts_append, Body.attribute?_append]

/-- Fields that lack a name stand for no attribute of this name. -/
theorem attribute?_parts_of_lacks {fields : Fields} (h : AreParts p fields)
    (hlacks : Lacks name fields) : Body.attribute? (parts f fields) name = none := by
  induction fields with
  | nil => rfl
  | cons e fields ih =>
    obtain ⟨field, a⟩ := e
    rw [Lacks, List.map_cons, List.mem_cons, not_or] at hlacks
    rw [parts, Body.attribute?_append, attribute?_part hlacks.1 a h.1, ih h.2 hlacks.2]
    rfl

/-- Fields in front that lack the name may be passed over. -/
theorem attribute?_skip {before : Fields} (after : Fields) (h : AreParts p before)
    (hlacks : Lacks name before) :
    Body.attribute? (parts f (before ++ after)) name = Body.attribute? (parts f after) name := by
  rw [attribute?_parts_append, attribute?_parts_of_lacks h hlacks, Option.none_or]

/-- Fields behind that lack the name may be left out. -/
theorem attribute?_drop (before : Fields) {after : Fields} (h : AreParts p after)
    (hlacks : Lacks name after) :
    Body.attribute? (parts f (before ++ after)) name = Body.attribute? (parts f before) name := by
  rw [attribute?_parts_append, attribute?_parts_of_lacks h hlacks, Option.or_none]

/-- A field that holds a value stands for an attribute. -/
theorem parts_always {a : Argument} (h : a.IsValue p) (ha : a.isAbsent = false) :
    parts f (Field.always name a) = [.attribute name (a.expr f)] := by
  rw [Field.always, parts, parts, List.append_nil, part_value name a h, ha]
  rfl

theorem attribute?_field (field name : String) {a : Argument} (h : a.IsValue p)
    (ha : a.isAbsent = false) :
    Body.attribute? (parts f (Field.always field a)) name =
      if field = name then some (a.expr f) else none := by
  rw [parts_always h ha]
  simp [Body.attribute?]

/-- The attribute of a field that holds a value. -/
theorem attribute?_always {a : Argument} (h : a.IsValue p) (ha : a.isAbsent = false) :
    Body.attribute? (parts f (Field.always name a)) name = some (a.expr f) := by
  rw [attribute?_field name name h ha, if_pos rfl]

/-! ## Scalars -/

section

variable {α : Type} (field name : String)

theorem attribute?_optional {g : α → Argument} (hvalue : ∀ a, (g a).IsValue p)
    (hthere : ∀ a, (g a).isAbsent = false) (value : Option α) :
    Body.attribute? (parts f (Field.optional field g value)) name =
      if field = name then value.map fun a => (g a).expr f else none := by
  cases value with
  | none => simp [Field.optional, parts, part, Body.attribute?]
  | some a => exact attribute?_field (a := .wrapped (g a)) field name (hvalue a) (hthere a)

@[simp] theorem attribute?_text (value : Option String) :
    Body.attribute? (parts f (Field.optional field .text value)) name =
      if field = name then value.map .str else none :=
  attribute?_optional (g := .text) (p := fun _ => True) field name (fun _ => trivial)
    (fun _ => rfl) value

@[simp] theorem attribute?_bool (value : Option Bool) :
    Body.attribute? (parts f (Field.optional field .bool value)) name =
      if field = name then value.map .bool else none :=
  attribute?_optional (g := .bool) (p := fun _ => True) field name (fun _ => trivial)
    (fun _ => rfl) value

@[simp] theorem attribute?_duration (value : Option Duration) :
    Body.attribute? (parts f (Field.optional field .duration value)) name =
      if field = name then value.map fun d => .str d.text else none :=
  attribute?_optional (g := .duration) (p := fun _ => True) field name (fun _ => trivial)
    (fun _ => rfl) value

@[simp] theorem attribute?_uint16 (value : Option UInt16) :
    Body.attribute? (parts f (Field.optional field .uint16 value)) name =
      if field = name then value.map fun n => .number (toString n.toNat) else none :=
  attribute?_optional (g := .uint16) (p := fun _ => True) field name (fun _ => trivial)
    (fun _ => rfl) value

@[simp] theorem attribute?_uint64 (value : Option UInt64) :
    Body.attribute? (parts f (Field.optional field .uint64 value)) name =
      if field = name then value.map fun n => .number (toString n.toNat) else none :=
  attribute?_optional (g := .uint64) (p := fun _ => True) field name (fun _ => trivial)
    (fun _ => rfl) value

end

/-! ## Values of categories -/

theorem expr_placeholder (hole : Placeholder) :
    (placeholder hole).expr f = f (.placeholder hole) := by
  cases hole <;> rfl

@[simp] theorem attribute?_placeholder (hole : Placeholder) :
    Body.attribute? (parts f (Field.always name (.placeholder hole))) name =
      some (f (.placeholder hole)) := by
  have hvalue : (placeholder hole).IsValue fun _ => True := ⟨⟨hole, rfl⟩, trivial⟩
  rw [attribute?_always hvalue rfl, expr_placeholder]

@[simp] theorem attribute?_optional_placeholder (hole : Option Placeholder) :
    Body.attribute? (parts f (Field.optional name .placeholder hole)) name =
      hole.map fun h => f (.placeholder h) := by
  cases hole with
  | none => rfl
  | some h => exact attribute?_placeholder h

@[simp] theorem attribute?_reference (path : String) :
    Body.attribute? (parts f (Field.always name (.reference path))) name =
      some (f (.reference path)) :=
  attribute?_always (p := fun _ => True) ⟨⟨path, rfl⟩, trivial⟩ rfl

theorem isValue_references (paths : List String) : (references paths).IsValue fun _ => True :=
  (areValues_references paths).2 fun _ _ => trivial

theorem expr_references (paths : List String) :
    (references paths).expr f = .array (paths.map fun path => f (.reference path)) := by
  rw [references, expr, exprs_eq_map, List.map_map]
  rfl

@[simp] theorem attribute?_references (paths : List String) :
    Body.attribute? (parts f (Field.always name (.references paths))) name =
      some (.array (paths.map fun path => f (.reference path))) := by
  rw [attribute?_always (isValue_references paths) rfl, expr_references]

theorem isValue_targets (ts : List Target) : (targets ts).IsValue fun _ => True :=
  ⟨⟨ts, rfl⟩, trivial⟩

@[simp] theorem attribute?_targets (ts : List Target) :
    Body.attribute? (parts f (Field.always name (.targets ts))) name = some (f (.targets ts)) := by
  have hspecial : ofPayload .targets (.list (ts.map target)) = .targets ts := by
    rw [ofPayload, payloadTargets_targets]
  rw [attribute?_always (isValue_targets ts) rfl, ← hspecial]
  rfl

end Argument

end AgentConvert
