import AgentConvert.Argument.Encode

/-!
# What arguments stand for

The part of a block that an argument stands for, without the steps of the encoding: the expression
of a value (`Argument.expr`), the statements of a field (`Argument.part`) and those of all fields of
a record (`Argument.parts`). They depend on how a front-end renders the values of the categories.

`Argument.AreParts p` says which fields these are for: blocks stand where blocks can stand, and
every value of a category is plain and satisfies `p`.
-/

namespace AgentConvert

namespace Argument

/-! ## Values of categories -/

/-- The text that is the payload of a category. -/
def payloadText : Argument → String
  | .text s => s
  | _ => ""

/-- The target that a record of texts is. -/
def payloadTarget : Argument → Target
  | .record fields => fields.map fun e => (e.1, e.2.payloadText)
  | _ => []

/-- The targets that a list of records is. -/
def payloadTargets : Argument → List Target
  | .list items => items.map payloadTarget
  | _ => []

/-- The value of a category with this payload. -/
def ofPayload (category : Category) (a : Argument) : Special :=
  match category with
  | .secret => .secret a.payloadText
  | .regex => .regex a.payloadText
  | .targets => .targets a.payloadTargets
  | .reference => .reference a.payloadText
  | .placeholder => .placeholder ((Placeholder.ofName? a.payloadText).getD .logsReceivers)

/-- The record that a target is. -/
def target (t : Target) : Argument := .record (t.map fun l => (l.1, .text l.2))

/-- Whether an argument is a payload of the category. -/
def IsPayload : Category → Argument → Prop
  | .targets, a => ∃ ts : List Target, a = .list (ts.map target)
  | .placeholder, a => ∃ p : Placeholder, a = .text p.name
  | .secret, a | .regex, a | .reference, a => ∃ s, a = .text s

/-! ## Shapes -/

/-- Whether the argument is an optional value that is not there. -/
def isAbsent : Argument → Bool
  | .absent => true
  | .wrapped a => a.isAbsent
  | _ => false

/-- Whether the argument is a nested block. -/
def isBlock : Argument → Bool
  | .wrapped a => a.isBlock
  | .variant _ a => a.isBlock
  | .block _ => true
  | _ => false

/-- Whether the argument is a list. -/
def isList : Argument → Bool
  | .list _ => true
  | _ => false

section

variable (f : Special → Expr)

mutual
/-- The expression that a value stands for. -/
def expr : Argument → Expr
  | .bool b => .bool b
  | .int n => .number (toString n)
  | .float x => .number x.text
  | .text s => .str s
  | .wrapped a => a.expr
  | .list items => .array (exprs items)
  | .record fields => .object (fieldExprs fields)
  | .special category a => f (ofPayload category a)
  | .concat a =>
    match a.expr with
    | .array args => .call ["concat"] args
    | x => x
  | _ => .null

/-- The expressions of items. -/
def exprs : List Argument → List Expr
  | [] => []
  | a :: rest => a.expr :: exprs rest

/-- The fields of an object; absent ones are left out. -/
def fieldExprs : Fields → List (String × Expr)
  | [] => []
  | (name, a) :: rest => if a.isAbsent then fieldExprs rest else (name, a.expr) :: fieldExprs rest
end

mutual
/-- The statements that the field called `name` stands for. -/
def part (name : String) : Argument → Body
  | .absent => []
  | .wrapped a => a.part name
  | .variant own a => a.part own
  | .block (.record fields) => [.block (dotted name) none (parts fields)]
  | .list items =>
    if items.any isBlock then itemParts name items
    else [.attribute name (.array (exprs f items))]
  | a => [.attribute name (a.expr f)]

/-- The statements that a list of blocks stands for. -/
def itemParts (name : String) : List Argument → Body
  | [] => []
  | a :: rest => a.part name ++ itemParts name rest

/-- The statements that the fields of a record stand for. -/
def parts : Fields → Body
  | [] => []
  | (name, a) :: rest => a.part name ++ parts rest
end

end

/-! ## Places -/

section

variable (p : Special → Prop)

mutual
/-- Whether the argument is a value, with values of categories that satisfy `p`. -/
def IsValue : Argument → Prop
  | .absent | .unit | .bool _ | .int _ | .text _ => True
  | .float x => x.isFinite = true
  | .wrapped a => a.IsValue
  | .list items => AreValues items
  | .record fields => AreFieldValues fields
  | .special category a => IsPayload category a ∧ p (ofPayload category a)
  | .concat a => a.isList = true ∧ a.IsValue
  | _ => False

/-- Whether all items are values. -/
def AreValues : List Argument → Prop
  | [] => True
  | a :: rest => a.IsValue ∧ AreValues rest

/-- Whether all fields hold values. -/
def AreFieldValues : Fields → Prop
  | [] => True
  | (_, a) :: rest => a.IsValue ∧ AreFieldValues rest
end

mutual
/-- Whether the argument can be a field of a block: a value, a block, or a list of either. -/
def IsPart : Argument → Prop
  | .wrapped a => a.IsPart
  | .variant _ a => a.isBlock = true ∧ a.IsPart
  | .block (.record fields) => AreParts fields
  | .list items => AreValues p items ∨ items ≠ [] ∧ AreBlocks items
  | a => a.IsValue p

/-- Whether all items are blocks. -/
def AreBlocks : List Argument → Prop
  | [] => True
  | a :: rest => (a.isBlock = true ∧ a.IsPart) ∧ AreBlocks rest

/-- Whether all fields can be fields of a block. -/
def AreParts : Fields → Prop
  | [] => True
  | (_, a) :: rest => a.IsPart ∧ AreParts rest
end

end

/-! ## Parts of parts -/

variable {p q : Special → Prop} {f : Special → Expr}

theorem parts_append (as bs : Fields) : parts f (as ++ bs) = parts f as ++ parts f bs := by
  induction as with
  | nil => rfl
  | cons a as ih =>
    obtain ⟨name, a⟩ := a
    rw [List.cons_append, parts, parts, ih, List.append_assoc]

theorem parts_flatMap {α : Type} (f : Special → Expr) (g : α → Fields) (items : List α) :
    parts f (items.flatMap g) = items.flatMap fun a => parts f (g a) := by
  induction items with
  | nil => rfl
  | cons a items ih => rw [List.flatMap_cons, parts_append, ih, List.flatMap_cons]

theorem areParts_append (as bs : Fields) :
    AreParts p (as ++ bs) ↔ AreParts p as ∧ AreParts p bs := by
  induction as with
  | nil => simp [AreParts]
  | cons a as ih =>
    obtain ⟨name, a⟩ := a
    simp only [List.cons_append, AreParts, ih, and_assoc]

theorem areValues_iff (items : List Argument) : AreValues p items ↔ ∀ a ∈ items, a.IsValue p := by
  induction items with
  | nil => simp [AreValues]
  | cons a items ih => simp [AreValues, ih]

theorem areBlocks_iff (items : List Argument) :
    AreBlocks p items ↔ ∀ a ∈ items, a.isBlock = true ∧ a.IsPart p := by
  induction items with
  | nil => simp [AreBlocks]
  | cons a items ih => simp [AreBlocks, ih]

theorem areFieldValues_iff (fields : Fields) :
    AreFieldValues p fields ↔ ∀ e ∈ fields, e.2.IsValue p := by
  induction fields with
  | nil => simp [AreFieldValues]
  | cons e fields ih => simp [AreFieldValues, ih]

theorem areParts_iff (fields : Fields) : AreParts p fields ↔ ∀ e ∈ fields, e.2.IsPart p := by
  induction fields with
  | nil => simp [AreParts]
  | cons e fields ih => simp [AreParts, ih]

/-- The part of a list of blocks is their parts. -/
theorem part_blocks {items : List Argument} (name : String) (hne : items ≠ [])
    (h : AreBlocks p items) : (Argument.list items).part f name = itemParts f name items := by
  have hany : items.any isBlock = true := by
    obtain ⟨a, rest, rfl⟩ := List.exists_cons_of_ne_nil hne
    rw [List.any_cons, h.1.1, Bool.true_or]
  rw [part, hany]
  rfl

theorem exprs_eq_map (items : List Argument) : exprs f items = items.map (expr f) := by
  induction items with
  | nil => rfl
  | cons a items ih => rw [exprs, ih, List.map_cons]

theorem fieldExprs_eq_map (fields : Fields) :
    fieldExprs f fields = (fields.filter (!·.2.isAbsent)).map fun e => (e.1, e.2.expr f) := by
  induction fields with
  | nil => rfl
  | cons e fields ih =>
    rw [fieldExprs, ih]
    cases h : e.2.isAbsent <;> simp [h]

theorem itemParts_eq_flatMap (name : String) (items : List Argument) :
    itemParts f name items = items.flatMap (part f name) := by
  induction items with
  | nil => rfl
  | cons a items ih => rw [itemParts, ih, List.flatMap_cons]

theorem parts_eq_flatMap (fields : Fields) :
    parts f fields = fields.flatMap fun e => e.2.part f e.1 := by
  induction fields with
  | nil => rfl
  | cons e fields ih => rw [parts, ih, List.flatMap_cons]

end Argument

end AgentConvert
