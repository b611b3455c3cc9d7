import AgentConvert.Proofs.Component
import AgentConvert.Proofs.Formatted.Numerals
import AgentConvert.Proofs.Settings.Fields

/-!
# Names of fields

The parts that fields stand for can be spelled if each field has a name (`Argument.AreNamed`), each
of the paths is a reference, and numbers are finite, whatever the texts and the keys of objects are
(`Argument.wellFormed_parts`). The lemmas on the ways to write a field let `simp` prove
`Argument.AreNamed` for the arguments of a component, field by field.
-/

namespace AgentConvert

theorem Body.wellFormed_append {a b : Body} :
    Body.WellFormed (a ++ b) ↔ Body.WellFormed a ∧ Body.WellFormed b := by
  induction a with
  | nil => simp [Body.WellFormed]
  | cons s a ih => simp [Body.WellFormed, ih, and_assoc]

/-- An identifier is a name of one segment. -/
theorem isName_dotted {s : String} (h : isIdentifier s = true) : IsName (dotted s) := by
  rw [dotted, split_word (not_mem_dot h), List.reverse_nil, List.nil_append, String.ofList_toList]
  exact ⟨by simp, by simpa using h⟩

namespace Argument

/-! ## Names -/

mutual
/-- Whether the names inside an argument are names of attributes and blocks. -/
def IsNamed : Argument → Prop
  | .wrapped a => a.IsNamed
  | .variant own a => IsName (dotted own) ∧ a.IsNamed
  | .block (.record fields) => AreNamed fields
  | .list items => AreAllNamed items
  | _ => True

/-- Whether the names inside each of the items are. -/
def AreAllNamed : List Argument → Prop
  | [] => True
  | a :: rest => a.IsNamed ∧ AreAllNamed rest

/-- Whether the names of fields, and those inside them, are. -/
def AreNamed : Fields → Prop
  | [] => True
  | (name, a) :: rest => (isIdentifier name = true ∧ a.IsNamed) ∧ AreNamed rest
end

/-! ## Spelled parts -/

variable {p : Special → Prop} {f : Special → Expr}

mutual
theorem wellFormed_expr (hf : ∀ v, p v → (f v).WellFormed) : ∀ a : Argument, a.IsValue p →
    (a.expr f).WellFormed
  | .absent, _ | .unit, _ | .bool _, _ | .text _, _ => trivial
  | .int n, _ => isNumber_int n
  | .float _, h => isNumber_text h
  | .wrapped a, h => wellFormed_expr hf a h
  | .list items, h => wellFormed_exprs hf items h
  | .record fields, h => wellFormed_fieldExprs hf fields h
  | .special .., h => hf _ h.2
  | .concat a, h => by
    cases a with
    | list items => exact ⟨by decide, wellFormed_exprs hf items h.2⟩
    | _ => exact absurd h.1 (by simp [isList])
  | .map _, h | .keyless _, h | .variant .., h | .block _, h | .unsupported _, h | .failing _, h =>
    h.elim

theorem wellFormed_exprs (hf : ∀ v, p v → (f v).WellFormed) : ∀ items : List Argument,
    AreValues p items → Expr.WellFormedItems (exprs f items)
  | [], _ => trivial
  | a :: rest, h => ⟨wellFormed_expr hf a h.1, wellFormed_exprs hf rest h.2⟩

theorem wellFormed_fieldExprs (hf : ∀ v, p v → (f v).WellFormed) : ∀ fields : Fields,
    AreFieldValues p fields → Expr.WellFormedFields (fieldExprs f fields)
  | [], _ => trivial
  | (name, a) :: rest, h => by
    rw [fieldExprs]
    split
    · exact wellFormed_fieldExprs hf rest h.2
    · exact ⟨wellFormed_expr hf a h.1, wellFormed_fieldExprs hf rest h.2⟩
end

theorem wellFormed_part_value (hf : ∀ v, p v → (f v).WellFormed) {name : String}
    (hn : isIdentifier name = true) {a : Argument} (h : a.IsValue p) :
    Body.WellFormed (a.part f name) := by
  rw [part_value name a h]
  split
  · trivial
  · exact ⟨⟨hn, wellFormed_expr hf a h⟩, trivial⟩

/-- Whether an argument can have this name: a block a dotted one, anything else an identifier. -/
def CanHaveName (name : String) (a : Argument) : Prop :=
  IsName (dotted name) ∧ (a.isBlock = false → isIdentifier name = true)

theorem canHaveName {name : String} (h : isIdentifier name = true) (a : Argument) :
    CanHaveName name a :=
  ⟨isName_dotted h, fun _ => h⟩

mutual
theorem wellFormed_part (hf : ∀ v, p v → (f v).WellFormed) : ∀ (name : String) (a : Argument),
    CanHaveName name a → a.IsPart p → a.IsNamed → Body.WellFormed (a.part f name)
  | name, .wrapped a, hn, h, hr => wellFormed_part hf name a hn h hr
  | _, .variant own a, _, h, hr =>
    wellFormed_part hf own a ⟨hr.1, fun hb => absurd (h.1.symm.trans hb) (by simp)⟩ h.2 hr.2
  | name, .block a, hn, h, hr => by
    cases a with
    | record fields => exact ⟨⟨hn.1, wellFormed_parts hf fields h hr⟩, trivial⟩
    | _ => exact h.elim
  | name, .list items, hn, h, hr => by
    rcases h with h | ⟨hne, h⟩
    · exact wellFormed_part_value hf (hn.2 rfl) (a := .list items) h
    · rw [part_blocks name hne h]
      exact wellFormed_itemParts hf name items hn.1 h hr
  | _, .absent, hn, h, _ | _, .unit, hn, h, _ | _, .bool _, hn, h, _ | _, .int _, hn, h, _
  | _, .float _, hn, h, _ | _, .text _, hn, h, _ | _, .record _, hn, h, _
  | _, .special .., hn, h, _ | _, .concat _, hn, h, _ => wellFormed_part_value hf (hn.2 rfl) h
  | _, .map _, _, h, _ | _, .keyless _, _, h, _ | _, .unsupported _, _, h, _
  | _, .failing _, _, h, _ => h.elim

theorem wellFormed_itemParts (hf : ∀ v, p v → (f v).WellFormed) :
    ∀ (name : String) (items : List Argument), IsName (dotted name) → AreBlocks p items →
    AreAllNamed items → Body.WellFormed (itemParts f name items)
  | _, [], _, _, _ => trivial
  | name, a :: rest, hn, h, hr => by
    rw [itemParts, Body.wellFormed_append]
    refine ⟨wellFormed_part hf name a ⟨hn, fun hb => ?_⟩ h.1.2 hr.1,
      wellFormed_itemParts hf name rest hn h.2 hr.2⟩
    exact absurd (h.1.1.symm.trans hb) (by simp)

/-- The parts of named fields can be spelled, if the values of categories can. -/
theorem wellFormed_parts (hf : ∀ v, p v → (f v).WellFormed) : ∀ fields : Fields,
    AreParts p fields → AreNamed fields → Body.WellFormed (parts f fields)
  | [], _, _ => trivial
  | (name, a) :: rest, h, hn => by
    rw [parts, Body.wellFormed_append]
    exact ⟨wellFormed_part hf name a (canHaveName hn.1.1 a) h.1 hn.1.2,
      wellFormed_parts hf rest h.2 hn.2⟩
end

/-! ## References and placeholders -/

/-- Whether a dotted path can be spelled. -/
def IsPath (path : String) : Prop := IsReference (dotted path)

theorem wellFormed_targetExpr (t : Target) : (Special.targetExpr t).WellFormed := by
  show Expr.WellFormedFields (t.map fun l => (l.1, .str l.2))
  induction t with
  | nil => trivial
  | cons l t ih => exact ⟨trivial, ih⟩

theorem wellFormed_targets (ts : List Target) :
    Expr.WellFormedItems (ts.map Special.targetExpr) := by
  induction ts with
  | nil => trivial
  | cons t ts ih => exact ⟨wellFormed_targetExpr t, ih⟩

/-- The parts of named fields can be spelled, if their references and what stands for their
placeholders can. -/
theorem wellFormed_parts_uses {refs : List String} {holes : List Placeholder} {fields : Fields}
    {g : Special → Special.Answer} (hg : FillsPlaceholders g)
    (hrefs : ∀ path ∈ refs, IsPath path)
    (hholes : ∀ hole ∈ holes, (renderBy g (.placeholder hole)).WellFormed)
    (h : AreParts (Special.Uses refs holes) fields) (hn : AreNamed fields) :
    Body.WellFormed (parts (renderBy g) fields) := by
  refine wellFormed_parts (fun v hv => ?_) fields h hn
  cases v with
  | placeholder hole => exact hholes hole hv
  | reference path =>
    rw [hg.renderBy_eq (by simp)]
    exact hrefs path hv
  | secret _ | regex _ =>
    rw [hg.renderBy_eq (by simp)]
    trivial
  | targets ts =>
    rw [hg.renderBy_eq (by simp)]
    exact wellFormed_targets ts

/-! ## Values -/

mutual
/-- A value holds no names of attributes or blocks. -/
theorem isNamed_of_isValue : ∀ a : Argument, a.IsValue p → a.IsNamed
  | .wrapped a, h => isNamed_of_isValue a h
  | .list items, h => areAllNamed_of_areValues items h
  | .absent, _ | .unit, _ | .bool _, _ | .int _, _ | .float _, _ | .text _, _ | .record _, _
  | .special .., _ | .concat _, _ => trivial
  | .map _, h | .keyless _, h | .variant .., h | .block _, h | .unsupported _, h | .failing _, h =>
    h.elim

theorem areAllNamed_of_areValues : ∀ items : List Argument, AreValues p items → AreAllNamed items
  | [], _ => trivial
  | a :: rest, h => ⟨isNamed_of_isValue a h.1, areAllNamed_of_areValues rest h.2⟩
end

@[simp] theorem isNamed_text (s : String) : (Argument.text s).IsNamed := trivial

@[simp] theorem isNamed_bool (b : Bool) : (Argument.bool b).IsNamed := trivial

@[simp] theorem isNamed_float (x : Binary64) : (Argument.float x).IsNamed := trivial

@[simp] theorem isNamed_record (fields : Fields) : (Argument.record fields).IsNamed := trivial

@[simp] theorem isNamed_uint16 (n : UInt16) : (uint16 n).IsNamed := trivial

@[simp] theorem isNamed_uint32 (n : UInt32) : (uint32 n).IsNamed := trivial

@[simp] theorem isNamed_uint64 (n : UInt64) : (uint64 n).IsNamed := trivial

@[simp] theorem isNamed_duration (d : Duration) : (duration d).IsNamed := trivial

@[simp] theorem isNamed_labels (d : Dictionary String) : (labels d).IsNamed := trivial

@[simp] theorem isNamed_secret (s : Secret) : (secret s).IsNamed := trivial

@[simp] theorem isNamed_regex (s : String) : (regex s).IsNamed := trivial

@[simp] theorem isNamed_reference (path : String) : (reference path).IsNamed := trivial

@[simp] theorem isNamed_placeholder (h : Placeholder) : (placeholder h).IsNamed := trivial

@[simp] theorem isNamed_targets (ts : List Target) : (targets ts).IsNamed := trivial

@[simp] theorem isNamed_concat (a : Argument) : (Argument.concat a).IsNamed := trivial

@[simp] theorem isNamed_blockOf (fields : Fields) : (blockOf fields).IsNamed ↔ AreNamed fields :=
  .rfl

/-- The items of a list hold no other names than their own. -/
theorem isNamed_list {α : Type} {f : α → Argument} (items : List α) (h : ∀ a, (f a).IsNamed) :
    (Argument.list (items.map f)).IsNamed := by
  show AreAllNamed (items.map f)
  induction items with
  | nil => trivial
  | cons a items ih => exact ⟨h a, ih⟩

@[simp] theorem isNamed_texts (items : List String) : (texts items).IsNamed :=
  isNamed_list items isNamed_text

@[simp] theorem isNamed_references (paths : List String) : (references paths).IsNamed :=
  isNamed_list paths isNamed_reference

/-! ## Lists of fields -/

@[simp] theorem areNamed_nil : AreNamed [] := trivial

@[simp] theorem areNamed_append {as bs : Fields} :
    AreNamed (as ++ bs) ↔ AreNamed as ∧ AreNamed bs := by
  induction as with
  | nil => simp [AreNamed]
  | cons a as ih =>
    obtain ⟨name, a⟩ := a
    simp only [List.cons_append, AreNamed, ih, and_assoc]

theorem areNamed_flatMap {α : Type} {f : α → Fields} {items : List α}
    (h : ∀ a ∈ items, AreNamed (f a)) : AreNamed (items.flatMap f) := by
  induction items with
  | nil => trivial
  | cons a items ih =>
    rw [List.flatMap_cons, areNamed_append]
    exact ⟨h a (List.mem_cons_self ..), ih fun b hb => h b (List.mem_cons_of_mem _ hb)⟩

theorem areNamed_field {name : String} {a : Argument} (h : isIdentifier name = true)
    (ha : a.IsNamed) : AreNamed [(name, a)] :=
  ⟨⟨h, ha⟩, trivial⟩

end Argument

namespace Field

open Argument

variable {name : String} {α : Type}

/-! ## Fields -/

@[simp] theorem areNamed_always {a : Argument} (h : isIdentifier name = true) :
    AreNamed (always name a) ↔ a.IsNamed :=
  ⟨fun ha => ha.1.2, areNamed_field h⟩

@[simp] theorem areNamed_optional {f : α → Argument} {value : Option α}
    (h : isIdentifier name = true) :
    AreNamed (optional name f value) ↔ ∀ a ∈ value, (f a).IsNamed := by
  cases value with
  | none => exact ⟨fun _ => by simp, fun _ => areNamed_field h trivial⟩
  | some a => exact ⟨fun ha => by rintro b ⟨⟩; exact ha.1.2, fun ha => areNamed_field h (ha a rfl)⟩

@[simp] theorem areNamed_unlessNil {f : List α → Argument} {items : List α}
    (h : isIdentifier name = true) :
    AreNamed (unlessNil name f items) ↔ (items ≠ [] → (f items).IsNamed) := by
  unfold unlessNil
  cases items with
  | nil => simp
  | cons a items => exact ⟨fun ha _ => ha.1.2, fun ha => areNamed_field h (ha (by simp))⟩

@[simp] theorem areNamed_unlessEmpty (d : Dictionary String) (h : isIdentifier name = true) :
    AreNamed (unlessEmpty name d) := by
  unfold unlessEmpty
  split
  · trivial
  · exact areNamed_field h (isNamed_labels d)

@[simp] theorem areNamed_whenOn (on : Bool) (h : isIdentifier name = true) :
    AreNamed (whenOn name on) := by
  unfold whenOn
  split
  · exact areNamed_field h trivial
  · trivial

end Field

end AgentConvert
