import AgentConvert.Proofs.Routing.Blocks
import Mathlib.Data.List.Forall2

/-!
# Renaming labels

A renaming gives the jobs of a log shipper new labels, and the blocks that write to its clients
(`Renaming`). It renames a document as a whole: the labels of blocks, and the labels inside the
paths that refer to what blocks export.

A block is renamed when what its fields stand for is (`Draft.rename_block`): fields without
references when the placeholders in them are (`Renaming.renames_same`), and references when each
path is (`Renaming.renames_references`).
-/

namespace AgentConvert

open LogShipper

/-! ## Renamings -/

/-- New labels for the jobs of a log shipper and for the blocks that write to its clients. -/
structure Renaming where
  job : String → String
  write : String → String
  /-- Different jobs keep different labels. -/
  injective_job : Function.Injective job
  /-- Different clients keep different labels. -/
  injective_write : Function.Injective write

namespace Renaming

variable (ρ : Renaming)

/-- The new label of a block with this name. -/
def label (name : List String) (label : String) : String :=
  if name = Kind.write.segments then ρ.write label else ρ.job label

/-- A path with the new label: in front of the label stands the name of the block, behind it the
field that the block exports. -/
def path (segments : List String) : List String :=
  match segments.reverse with
  | field :: label :: name => name.reverse ++ [ρ.label name.reverse label, field]
  | _ => segments

theorem path_append (name : List String) (label field : String) :
    ρ.path (name ++ [label, field]) = name ++ [ρ.label name label, field] := by
  simp [path]

theorem label_of_ne {name : List String} (h : name ≠ Kind.write.segments) (label : String) :
    ρ.label name label = ρ.job label :=
  if_neg h

theorem label_write (label : String) : ρ.label Kind.write.segments label = ρ.write label :=
  if_pos rfl

end Renaming

/-! ## Renamed documents -/

namespace Expr

mutual
/-- An expression with the new labels in its paths. -/
def rename (ρ : Renaming) : Expr → Expr
  | .path segments => .path (ρ.path segments)
  | .array items => .array (renameItems ρ items)
  | .object fields => .object (renameFields ρ fields)
  | .call callee args => .call callee (renameItems ρ args)
  | e => e

/-- Expressions with the new labels in their paths. -/
def renameItems (ρ : Renaming) : List Expr → List Expr
  | [] => []
  | e :: es => e.rename ρ :: renameItems ρ es

/-- The fields of an object with the new labels in the paths of their values. -/
def renameFields (ρ : Renaming) : List (String × Expr) → List (String × Expr)
  | [] => []
  | (key, e) :: es => (key, e.rename ρ) :: renameFields ρ es
end

theorem renameItems_eq_map (ρ : Renaming) (es : List Expr) :
    renameItems ρ es = es.map (rename ρ) := by
  induction es with
  | nil => rfl
  | cons e es ih => rw [renameItems, ih, List.map_cons]

end Expr

mutual
/-- A statement with the new labels. -/
def Statement.rename (ρ : Renaming) : Statement → Statement
  | .attribute name value => .attribute name (value.rename ρ)
  | .block name label body => .block name (label.map (ρ.label name)) (Body.rename ρ body)

/-- A document with the new labels. -/
def Body.rename (ρ : Renaming) : Body → Body
  | [] => []
  | s :: body => s.rename ρ :: Body.rename ρ body
end

/-- A block with the new labels. -/
def Block.rename (ρ : Renaming) (b : Block) : Block :=
  ⟨b.name, b.label.map (ρ.label b.name), Body.rename ρ b.body⟩

variable {ρ : Renaming}

@[simp] theorem Body.rename_append (as bs : Body) :
    Body.rename ρ (as ++ bs) = Body.rename ρ as ++ Body.rename ρ bs := by
  induction as with
  | nil => rfl
  | cons s as ih => rw [List.cons_append, Body.rename, Body.rename, ih, List.cons_append]

theorem Body.rename_statements (blocks : List Block) :
    Body.rename ρ (blocks.map Block.statement) =
      (blocks.map (Block.rename ρ)).map Block.statement := by
  induction blocks with
  | nil => rfl
  | cons b blocks ih =>
    rw [List.map_cons, Body.rename, ih]
    rfl

/-! ## Renamed fields -/

namespace Argument

variable {p : Special → Prop} {f g : Special → Expr}

/-- Whether `g` renders each of the values that satisfy `p` as `f` does, with the new labels. -/
def Renames (ρ : Renaming) (p : Special → Prop) (f g : Special → Expr) : Prop :=
  ∀ v, p v → (f v).rename ρ = g v

mutual
theorem rename_expr (h : Renames ρ p f g) : ∀ a : Argument, a.IsValue p →
    (a.expr f).rename ρ = a.expr g
  | .wrapped a, ha => rename_expr h a ha
  | .list items, ha => by
    rw [expr, expr, Expr.rename, rename_exprs h items ha]
  | .record fields, ha => by
    rw [expr, expr, Expr.rename, rename_fieldExprs h fields ha]
  | .special category a, ha => h _ ha.2
  | .concat a, ha => by
    cases a with
    | list items =>
      show Expr.rename ρ (.call ["concat"] (exprs f items)) = .call ["concat"] (exprs g items)
      rw [Expr.rename, rename_exprs h items ha.2]
    | _ => exact absurd ha.1 (by simp [isList])
  | .absent, _ | .unit, _ | .bool _, _ | .int _, _ | .float _, _ | .text _, _ => by
    simp [expr, Expr.rename]
  | .map _, ha | .keyless _, ha | .variant .., ha | .block _, ha | .unsupported _, ha
  | .failing _, ha => ha.elim

theorem rename_exprs (h : Renames ρ p f g) : ∀ items : List Argument, AreValues p items →
    Expr.renameItems ρ (exprs f items) = exprs g items
  | [], _ => rfl
  | a :: rest, ha => by
    rw [exprs, exprs, Expr.renameItems, rename_expr h a ha.1, rename_exprs h rest ha.2]

theorem rename_fieldExprs (h : Renames ρ p f g) : ∀ fields : Fields, AreFieldValues p fields →
    Expr.renameFields ρ (fieldExprs f fields) = fieldExprs g fields
  | [], _ => rfl
  | (name, a) :: rest, ha => by
    rw [fieldExprs, fieldExprs]
    split
    · exact rename_fieldExprs h rest ha.2
    · rw [Expr.renameFields, rename_expr h a ha.1, rename_fieldExprs h rest ha.2]
end

theorem rename_value (h : Renames ρ p f g) (name : String) {a : Argument} (ha : a.IsValue p) :
    Body.rename ρ (a.part f name) = a.part g name := by
  rw [part_value name a ha, part_value name a ha]
  split
  · rfl
  · rw [Body.rename, Statement.rename, rename_expr h a ha]
    rfl

mutual
theorem rename_part (h : Renames ρ p f g) : ∀ (name : String) (a : Argument), a.IsPart p →
    Body.rename ρ (a.part f name) = a.part g name
  | name, .wrapped a, ha => rename_part h name a ha
  | _, .variant own a, ha => rename_part h own a ha.2
  | name, .block a, ha => by
    cases a with
    | record fields =>
      show [Statement.block (dotted name) none (Body.rename ρ (parts f fields))] = _
      rw [rename_parts h fields ha]
      rfl
    | _ => exact ha.elim
  | name, .list items, ha => by
    rcases ha with ha | ⟨hitems, ha⟩
    · exact rename_value h name (a := .list items) ha
    · rw [part_blocks name hitems ha, part_blocks name hitems ha]
      exact rename_itemParts h name items ha
  | name, .absent, ha | name, .unit, ha | name, .bool _, ha | name, .int _, ha
  | name, .float _, ha | name, .text _, ha | name, .record _, ha | name, .special .., ha
  | name, .concat _, ha => rename_value h name ha
  | _, .map _, ha | _, .keyless _, ha | _, .unsupported _, ha | _, .failing _, ha => ha.elim

theorem rename_itemParts (h : Renames ρ p f g) : ∀ (name : String) (items : List Argument),
    AreBlocks p items →
    Body.rename ρ (itemParts f name items) = itemParts g name items
  | _, [], _ => rfl
  | name, a :: rest, ha => by
    rw [itemParts, itemParts, Body.rename_append, rename_part h name a ha.1.2,
      rename_itemParts h name rest ha.2]

/-- What fields stand for is renamed when the values of categories in them are. -/
theorem rename_parts (h : Renames ρ p f g) : ∀ fields : Fields, AreParts p fields →
    Body.rename ρ (parts f fields) = parts g fields
  | [], _ => rfl
  | (name, a) :: rest, ha => by
    rw [parts, parts, Body.rename_append, rename_part h name a ha.1, rename_parts h rest ha.2]
end

end Argument

/-! ## Renamed references -/

namespace Renaming

/-- Whether a path with the new labels is another path. -/
def Sends (ρ : Renaming) (path path' : String) : Prop := ρ.path (dotted path) = dotted path'

/-- What a block exports is exported by the block with the new label. -/
theorem sends_exportPath (kind : ComponentKind) (label field : String) (h : kind.IsNamed)
    (hl : isIdentifier label = true) (hl' : isIdentifier (ρ.label kind.segments label) = true)
    (hf : isIdentifier field = true) :
    ρ.Sends (kind.exportPath label field)
      (kind.exportPath (ρ.label kind.segments label) field) := by
  rw [Sends, ComponentKind.dotted_exportPath h hl hf, ComponentKind.dotted_exportPath h hl' hf,
    path_append]

/-- Whether `g` renders values of categories as `f` does, with the new labels; references are
rendered as they are. -/
structure Carries (ρ : Renaming) (f g : Special → Expr) : Prop where
  plain : ∀ v, (∀ path, v ≠ .reference path) → (f v).rename ρ = g v
  left : ∀ path, f (.reference path) = .ofDotted path
  right : ∀ path, g (.reference path) = .ofDotted path

theorem Sends.expr {path path' : String} (h : ρ.Sends path path') :
    (Expr.ofDotted path).rename ρ = .ofDotted path' :=
  congrArg Expr.path h

theorem Sends.exprs {paths paths' : List String} (h : List.Forall₂ ρ.Sends paths paths') :
    (Expr.array (paths.map .ofDotted)).rename ρ = .array (paths'.map .ofDotted) := by
  rw [Expr.rename, Expr.renameItems_eq_map]
  refine congrArg Expr.array ?_
  induction h with
  | nil => rfl
  | cons hpath _ ih => rw [List.map_cons, List.map_cons, List.map_cons, hpath.expr, ih]

theorem rename_targetExpr (t : Target) :
    (Special.targetExpr t).rename ρ = Special.targetExpr t := by
  refine congrArg Expr.object ?_
  induction t with
  | nil => rfl
  | cons l t ih => rw [List.map_cons, Expr.renameFields, ih]; rfl

theorem rename_render {v : Special} (h : ∀ path, v ≠ .reference path) :
    v.render.rename ρ = v.render := by
  cases v with
  | secret | regex | placeholder => rfl
  | reference path => exact absurd rfl (h path)
  | targets ts =>
    rw [Special.render, Expr.rename, Expr.renameItems_eq_map, List.map_map]
    exact congrArg Expr.array (List.map_congr_left fun t _ => rename_targetExpr t)

theorem carries_render (ρ : Renaming) : ρ.Carries Special.render Special.render :=
  ⟨fun _ h => rename_render h, fun _ => rfl, fun _ => rfl⟩

/-- Overrides that fill in placeholders carry the labels over when these are renamed. -/
theorem carries_renderBy {g g' : Special → Special.Answer} (hg : Argument.FillsPlaceholders g)
    (hg' : Argument.FillsPlaceholders g')
    (h : ∀ hole, (renderBy g (.placeholder hole)).rename ρ = renderBy g' (.placeholder hole)) :
    ρ.Carries (renderBy g) (renderBy g') := by
  refine ⟨fun v hv => ?_, fun path => hg.renderBy_eq (by simp),
    fun path => hg'.renderBy_eq (by simp)⟩
  by_cases hhole : ∃ hole, v = .placeholder hole
  · obtain ⟨hole, rfl⟩ := hhole
    exact h hole
  · rw [not_exists] at hhole
    rw [hg.renderBy_eq hhole, hg'.renderBy_eq hhole, rename_render hv]

end Renaming

/-! ## Renamed blocks -/

namespace Argument

variable {f g : Special → Expr} {as bs as' bs' : Fields}

/-- Whether fields with the new labels stand for what other fields stand for. -/
def AreRenamed (ρ : Renaming) (f g : Special → Expr) (as bs : Fields) : Prop :=
  Body.rename ρ (parts f as) = parts g bs

theorem AreRenamed.append (h : AreRenamed ρ f g as bs) (h' : AreRenamed ρ f g as' bs') :
    AreRenamed ρ f g (as ++ as') (bs ++ bs') := by
  rw [AreRenamed, parts_append, parts_append, Body.rename_append, h, h']

/-- Fields without references hold no labels of their own. -/
theorem areRenamed_same (h : ρ.Carries f g) (holes : List Placeholder)
    (hparts : AreParts (Special.Uses [] holes) as) : AreRenamed ρ f g as as := by
  refine rename_parts (fun v hv => h.plain v ?_) as hparts
  rintro path rfl
  exact absurd hv List.not_mem_nil

theorem areRenamed_reference (name : String) (h : ρ.Carries f g) {path path' : String}
    (hpath : ρ.Sends path path') :
    AreRenamed ρ f g (Field.always name (.reference path))
      (Field.always name (.reference path')) := by
  have hvalue : ∀ path, (reference path).IsValue fun _ => True := fun path => ⟨⟨path, rfl⟩, trivial⟩
  rw [AreRenamed, parts_always (hvalue path) rfl, parts_always (hvalue path') rfl]
  show [Statement.attribute name ((f (.reference path)).rename ρ)] =
    [.attribute name (g (.reference path'))]
  rw [h.left, h.right, hpath.expr]

theorem areRenamed_references (name : String) (h : ρ.Carries f g) {paths paths' : List String}
    (hpaths : List.Forall₂ ρ.Sends paths paths') :
    AreRenamed ρ f g (Field.always name (.references paths))
      (Field.always name (.references paths')) := by
  rw [AreRenamed, parts_always (isValue_references paths) rfl,
    parts_always (isValue_references paths') rfl, expr_references, expr_references]
  simp only [h.left, h.right]
  show [Statement.attribute name ((Expr.array (paths.map .ofDotted)).rename ρ)] = _
  rw [Renaming.Sends.exprs hpaths]

end Argument

namespace Draft

open Argument

variable {p q : Special → Prop} {as bs : Fields} {kind : ComponentKind} {label label' : String}

/-- A block is renamed when its label and its fields are. -/
theorem rename_blockWith {g g' : Special → Special.Answer} (hp : AreParts p as) (hq : AreParts q bs)
    (h : AreRenamed ρ (renderBy g) (renderBy g') as bs) (hl : label ≠ "") (hl' : label' ≠ "")
    (hlabel : ρ.label kind.segments label = label') :
    (blockWith (overrideBy g) kind label (.record as)).blocks.map (Block.rename ρ) =
      (blockWith (overrideBy g') kind label' (.record bs)).blocks := by
  rw [blocks_blockWith _ hp, blocks_blockWith _ hq, if_neg hl, if_neg hl', ← hlabel, ← h]
  rfl

theorem rename_block (hp : AreParts p as) (hq : AreParts q bs)
    (h : AreRenamed ρ Special.render Special.render as bs) (hl : label ≠ "") (hl' : label' ≠ "")
    (hlabel : ρ.label kind.segments label = label') :
    (block kind label (.record as)).blocks.map (Block.rename ρ) =
      (block kind label' (.record bs)).blocks := by
  rw [← renderBy_error] at h
  exact rename_blockWith hp hq h hl hl' hlabel

end Draft

end AgentConvert
