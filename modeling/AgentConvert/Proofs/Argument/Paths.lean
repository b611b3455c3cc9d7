import AgentConvert.Document.References
import AgentConvert.Proofs.Argument.Encoding

/-!
# Paths in the parts of arguments

Every path in the statements that arguments stand for comes from a value of a category: from a
reference, or from what a front-end puts for a placeholder (`path_mem_parts`).
-/

namespace AgentConvert

theorem exprsOfBody_append (as bs : Body) :
    exprsOfBody (as ++ bs) = exprsOfBody as ++ exprsOfBody bs := by
  induction as with
  | nil => rfl
  | cons s as ih => rw [List.cons_append, exprsOfBody, exprsOfBody, ih, List.append_assoc]

theorem mem_paths {body : Body} {segments : List String} :
    segments ∈ References.paths body ↔ .path segments ∈ exprsOfBody body := by
  simp only [References.paths, List.mem_filterMap]
  refine ⟨?_, fun h => ⟨_, h, rfl⟩⟩
  rintro ⟨e, he, h⟩
  split at h
  · obtain rfl := Option.some.inj h
    exact he
  · exact absurd h (by simp)

/-- Which values of categories there are: references among `refs`, placeholders among `holes`, and
any secrets, patterns and targets. -/
def Special.Uses (refs : List String) (holes : List Placeholder) : Special → Prop
  | .secret _ | .regex _ | .targets _ => True
  | .reference path => path ∈ refs
  | .placeholder h => h ∈ holes

section

variable {refs : List String} {holes : List Placeholder}

@[simp] theorem Special.uses_secret (s : String) : Uses refs holes (.secret s) := trivial

@[simp] theorem Special.uses_regex (s : String) : Uses refs holes (.regex s) := trivial

@[simp] theorem Special.uses_targets (ts : List Target) : Uses refs holes (.targets ts) := trivial

@[simp] theorem Special.uses_reference (path : String) :
    Uses refs holes (.reference path) ↔ path ∈ refs := .rfl

@[simp] theorem Special.uses_placeholder (h : Placeholder) :
    Uses refs holes (.placeholder h) ↔ h ∈ holes := .rfl

end

namespace Argument

variable {p : Special → Prop} {f : Special → Expr} {segments : List String}

/-! ## Paths in values -/

mutual
theorem path_mem_expr : ∀ a : Argument, a.IsValue p → .path segments ∈ (a.expr f).walk →
    ∃ v, p v ∧ .path segments ∈ (f v).walk
  | .wrapped a, h, hw => path_mem_expr a h hw
  | .list items, h, hw => by
    rw [expr, Expr.walk, List.mem_cons] at hw
    rcases hw with hw | hw
    · exact absurd hw (by simp)
    · exact path_mem_exprs items h hw
  | .record fields, h, hw => by
    rw [expr, Expr.walk, List.mem_cons] at hw
    rcases hw with hw | hw
    · exact absurd hw (by simp)
    · exact path_mem_fieldExprs fields h hw
  | .special category a, h, hw => ⟨_, h.2, hw⟩
  | .concat a, h, hw => by
    cases a with
    | list items =>
      simp only [expr, Expr.walk, List.mem_cons, reduceCtorEq, false_or] at hw
      exact path_mem_exprs items h.2 hw
    | _ => exact absurd h.1 (by simp [isList])
  | .absent, _, hw | .unit, _, hw | .bool _, _, hw | .int _, _, hw | .float _, _, hw
  | .text _, _, hw => by
    simp [expr, Expr.walk] at hw
  | .map _, h, _ | .keyless _, h, _ | .variant .., h, _ | .block _, h, _ | .unsupported _, h, _
  | .failing _, h, _ => h.elim

theorem path_mem_exprs : ∀ items : List Argument, AreValues p items →
    .path segments ∈ Expr.walkItems (exprs f items) → ∃ v, p v ∧ .path segments ∈ (f v).walk
  | [], _, hw => absurd hw (by simp [exprs, Expr.walkItems])
  | a :: rest, h, hw => by
    rw [exprs, Expr.walkItems, List.mem_append] at hw
    rcases hw with hw | hw
    · exact path_mem_expr a h.1 hw
    · exact path_mem_exprs rest h.2 hw

theorem path_mem_fieldExprs : ∀ fields : Fields, AreFieldValues p fields →
    .path segments ∈ Expr.walkFields (fieldExprs f fields) →
    ∃ v, p v ∧ .path segments ∈ (f v).walk
  | [], _, hw => absurd hw (by simp [fieldExprs, Expr.walkFields])
  | (name, a) :: rest, h, hw => by
    rw [fieldExprs] at hw
    split at hw
    · exact path_mem_fieldExprs rest h.2 hw
    · rw [Expr.walkFields, List.mem_append] at hw
      rcases hw with hw | hw
      · exact path_mem_expr a h.1 hw
      · exact path_mem_fieldExprs rest h.2 hw
end

/-! ## Paths in parts -/

theorem path_mem_part_value (name : String) {a : Argument} (h : a.IsValue p)
    (hw : .path segments ∈ exprsOfBody (a.part f name)) :
    ∃ v, p v ∧ .path segments ∈ (f v).walk := by
  rw [part_value name a h] at hw
  split at hw
  · exact absurd hw (by simp [exprsOfBody])
  · simp only [exprsOfBody, Statement.exprs, List.append_nil] at hw
    exact path_mem_expr a h hw

mutual
theorem path_mem_part : ∀ (name : String) (a : Argument), a.IsPart p →
    .path segments ∈ exprsOfBody (a.part f name) → ∃ v, p v ∧ .path segments ∈ (f v).walk
  | name, .wrapped a, h, hw => path_mem_part name a h hw
  | _, .variant own a, h, hw => path_mem_part own a h.2 hw
  | _, .block a, h, hw => by
    cases a with
    | record fields =>
      simp only [part, exprsOfBody, Statement.exprs, List.append_nil] at hw
      exact path_mem_parts fields h hw
    | _ => exact h.elim
  | name, .list items, h, hw => by
    rcases h with h | ⟨hne, h⟩
    · exact path_mem_part_value name (a := .list items) h hw
    · rw [part_blocks name hne h] at hw
      exact path_mem_itemParts name items h hw
  | name, .absent, h, hw | name, .unit, h, hw | name, .bool _, h, hw | name, .int _, h, hw
  | name, .float _, h, hw | name, .text _, h, hw | name, .record _, h, hw
  | name, .special .., h, hw | name, .concat _, h, hw => path_mem_part_value name h hw
  | _, .map _, h, _ | _, .keyless _, h, _ | _, .unsupported _, h, _ | _, .failing _, h, _ => h.elim

theorem path_mem_itemParts : ∀ (name : String) (items : List Argument), AreBlocks p items →
    .path segments ∈ exprsOfBody (itemParts f name items) →
    ∃ v, p v ∧ .path segments ∈ (f v).walk
  | _, [], _, hw => absurd hw (by simp [itemParts, exprsOfBody])
  | name, a :: rest, h, hw => by
    rw [itemParts, exprsOfBody_append, List.mem_append] at hw
    rcases hw with hw | hw
    · exact path_mem_part name a h.1.2 hw
    · exact path_mem_itemParts name rest h.2 hw

theorem path_mem_parts : ∀ fields : Fields, AreParts p fields →
    .path segments ∈ exprsOfBody (parts f fields) → ∃ v, p v ∧ .path segments ∈ (f v).walk
  | [], _, hw => absurd hw (by simp [parts, exprsOfBody])
  | (name, a) :: rest, h, hw => by
    rw [parts, exprsOfBody_append, List.mem_append] at hw
    rcases hw with hw | hw
    · exact path_mem_part name a h.1 hw
    · exact path_mem_parts rest h.2 hw
end

/-! ## References and placeholders -/

/-- Whether an override hands back all but placeholders. -/
def FillsPlaceholders (g : Special → Special.Answer) : Prop :=
  ∀ v, (∀ h, v ≠ .placeholder h) → g v = .error v

theorem FillsPlaceholders.renderBy_eq {g : Special → Special.Answer} (hg : FillsPlaceholders g)
    {v : Special} (h : ∀ hole, v ≠ .placeholder hole) : renderBy g v = v.render := by
  rw [renderBy, hg v h]
  rfl

theorem path_not_mem_targetExpr (t : Target) :
    .path segments ∉ (Special.targetExpr t).walk := by
  have hfields : .path segments ∉ Expr.walkFields (t.map fun l => (l.1, .str l.2)) := by
    induction t with
    | nil => simp [Expr.walkFields]
    | cons l t ih => simpa [Expr.walkFields, Expr.walk] using ih
  simpa [Special.targetExpr, Expr.walk] using hfields

theorem path_not_mem_targets (ts : List Target) :
    .path segments ∉ Expr.walkItems (ts.map Special.targetExpr) := by
  induction ts with
  | nil => simp [Expr.walkItems]
  | cons t ts ih => simp [Expr.walkItems, ih, path_not_mem_targetExpr]

/-- A path in the parts of fields is one of their references, or stands for a placeholder. -/
theorem path_mem_parts_uses {refs : List String} {holes : List Placeholder} {fields : Fields}
    {g : Special → Special.Answer} (hg : FillsPlaceholders g)
    (h : AreParts (Special.Uses refs holes) fields)
    (hw : .path segments ∈ exprsOfBody (parts (renderBy g) fields)) :
    (∃ path ∈ refs, segments = dotted path) ∨
      ∃ hole ∈ holes, .path segments ∈ (renderBy g (.placeholder hole)).walk := by
  obtain ⟨v, hv, hw⟩ := path_mem_parts fields h hw
  cases v with
  | placeholder hole => exact .inr ⟨hole, hv, hw⟩
  | secret s =>
    rw [hg.renderBy_eq (by simp)] at hw
    simp [Special.render, Expr.walk] at hw
  | regex s =>
    rw [hg.renderBy_eq (by simp)] at hw
    simp [Special.render, Expr.walk] at hw
  | targets ts =>
    rw [hg.renderBy_eq (by simp)] at hw
    simp [Special.render, Expr.walk, path_not_mem_targets] at hw
  | reference path =>
    rw [hg.renderBy_eq (by simp)] at hw
    simp only [Special.render, Expr.ofDotted, Expr.walk, List.mem_singleton,
      Expr.path.injEq] at hw
    exact .inl ⟨path, hv, hw⟩

end Argument

end AgentConvert
