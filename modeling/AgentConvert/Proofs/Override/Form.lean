import AgentConvert.Argument.Encode
import Mathlib.Data.List.Basic

/-!
# Forms

What an argument comes to, but for what stands for its values of categories: a tree with a hole for
each of these (`Form`). Once it is said what stands in the holes, a form is an expression
(`Form.expr`), the statements of a field (`Form.part`) or those of a whole block (`Form.body`), and
it is an encoded argument (`Form.encoded`), which is turned into just that expression and just these
statements wherever it can be (`Form.toExpr_encoded`, `Form.body_encoded`).
-/

namespace AgentConvert

/-- What an argument comes to, with holes. -/
inductive Form (α : Type) where
  | nothing
  | given (e : Expr)
  | hole (value : α)
  | list (items : List (Form α))
  /-- A call that joins lists. -/
  | concat (lists : Form α)
  | struct (fields : List (String × Form α))
  /-- A nested block, which may have a name of its own. -/
  | block (own : Option String) (fields : List (String × Form α))

namespace Form

variable {α β : Type}

/-! ## Parts of a form -/

/-- The forms right inside. -/
def children : Form α → List (Form α)
  | .list items => items
  | .concat lists => [lists]
  | .struct fields | .block _ fields => fields.map Prod.snd
  | _ => []

theorem sizeOf_snd_lt_of_mem {fields : List (String × Form α)} {t : Form α}
    (h : t ∈ fields.map Prod.snd) : sizeOf t < sizeOf fields := by
  obtain ⟨⟨name, t⟩, he, rfl⟩ := List.mem_map.1 h
  have := List.sizeOf_lt_of_mem he
  simp only [Prod.mk.sizeOf_spec] at this ⊢
  omega

theorem sizeOf_lt_of_mem_children {t c : Form α} (h : c ∈ t.children) : sizeOf c < sizeOf t := by
  cases t with
  | list items =>
    have := List.sizeOf_lt_of_mem (show c ∈ items from h)
    simp only [list.sizeOf_spec]
    omega
  | concat lists =>
    obtain rfl := List.mem_singleton.1 h
    simp only [concat.sizeOf_spec]
    omega
  | struct fields =>
    have := sizeOf_snd_lt_of_mem h
    simp only [struct.sizeOf_spec]
    omega
  | block own fields =>
    have := sizeOf_snd_lt_of_mem h
    simp only [block.sizeOf_spec]
    omega
  | _ => exact absurd h List.not_mem_nil

/-- What a form has if its parts have it, every form has. -/
theorem of_children {motive : Form α → Prop} (h : ∀ t, (∀ c ∈ t.children, motive c) → motive t)
    (t : Form α) : motive t :=
  h t fun c _ => of_children h c
termination_by sizeOf t
decreasing_by exact sizeOf_lt_of_mem_children ‹_›

/-- Whether the form is that of an optional value that is not there. -/
def isNothing : Form α → Bool
  | .nothing => true
  | _ => false

/-- Whether the form is a block. -/
def isBlock : Form α → Bool
  | .block .. => true
  | _ => false

/-- The form with other values in its holes. -/
def map (g : α → β) : Form α → Form β
  | .nothing => .nothing
  | .given e => .given e
  | .hole a => .hole (g a)
  | .list items => .list (items.map (map g))
  | .concat lists => .concat (lists.map g)
  | .struct fields => .struct (fields.map fun e => (e.1, e.2.map g))
  | .block own fields => .block own (fields.map fun e => (e.1, e.2.map g))
termination_by t => t
decreasing_by
  all_goals first
    | decreasing_tactic
    | exact sizeOf_lt_of_mem_children (List.mem_map_of_mem ‹_›)

/-- The values in the holes, from left to right. -/
def holes : Form α → List α
  | .hole a => [a]
  | .list items => items.flatMap holes
  | .concat lists => lists.holes
  | .struct fields | .block _ fields => fields.flatMap fun e => e.2.holes
  | _ => []
termination_by t => t
decreasing_by
  all_goals first
    | decreasing_tactic
    | exact sizeOf_lt_of_mem_children (List.mem_map_of_mem ‹_›)

/-! ## Expressions and statements -/

section

variable (f : α → Expr)

/-- The expression that the form is, where a value can stand. Absent fields of an object are left
out. -/
def expr : Form α → Expr
  | .nothing => .null
  | .given e => e
  | .hole a => f a
  | .list items => .array (items.map expr)
  | .concat lists =>
    match lists.expr with
    | .array args => .call ["concat"] args
    | _ => .null
  | .struct fields => .object ((fields.filter (!·.2.isNothing)).map fun e => (e.1, e.2.expr))
  | .block .. => .null
termination_by t => t
decreasing_by
  all_goals first
    | decreasing_tactic
    | exact sizeOf_lt_of_mem_children (List.mem_map_of_mem ‹_›)

/-- The statements that the field called `name` is: nothing for an absent one, one nested block for
a block and for each block of a list, and one attribute for anything else. A block that has no name
of its own takes the name of the field. -/
def part (name : String) : Form α → Body
  | .nothing => []
  | .block own fields =>
    [.block (dotted (own.getD name)) none (fields.flatMap fun e => e.2.part e.1)]
  | .list items =>
    if items.any isBlock then (items.filter isBlock).flatMap (part name)
    else [.attribute name (.array (items.map (expr f)))]
  | t => [.attribute name (t.expr f)]
termination_by t => t
decreasing_by
  all_goals first
    | decreasing_tactic
    | exact sizeOf_lt_of_mem_children (List.mem_map_of_mem ‹_›)

/-- The statements of a block: those of its fields, in order. -/
def body : Form α → Body
  | .struct fields => fields.flatMap fun e => e.2.part f e.1
  | _ => []

/-- The form as an encoded argument. -/
def encoded : Form α → Encoded
  | .nothing => .skip
  | .list items =>
    if items.any isBlock then .blocks (items.filterMap fun t => t.encoded.block?)
    else .expr (.array (items.map (expr f)))
  | .struct fields => .fields (fields.map fun e => (e.1, e.2.encoded))
  | .block own fields => .block own (fields.map fun e => (e.1, e.2.encoded))
  | t => .expr (t.expr f)
termination_by t => t
decreasing_by
  all_goals first
    | decreasing_tactic
    | exact sizeOf_lt_of_mem_children (List.mem_map_of_mem ‹_›)

end

/-! ## Places -/

/-- Whether the form is an expression: it is no block, nor has blocks among its items or fields. -/
def IsShown : Form α → Prop
  | .list items => items.any isBlock = false
  | .struct fields => ∀ e ∈ fields, e.2.IsShown
  | .block .. => False
  | _ => True
termination_by t => t
decreasing_by exact sizeOf_lt_of_mem_children (List.mem_map_of_mem ‹_›)

/-- Whether the form can be a field of a block. -/
def IsPart : Form α → Prop
  | .list items => ∀ t ∈ items, t.isBlock = true → t.IsPart
  | .struct fields => ∀ e ∈ fields, e.2.IsShown
  | .block _ fields => ∀ e ∈ fields, e.2.IsPart
  | _ => True
termination_by t => t
decreasing_by
  all_goals first
    | decreasing_tactic
    | exact sizeOf_lt_of_mem_children (List.mem_map_of_mem ‹_›)

/-! ## Other values in the holes -/

variable {f f' : α → Expr} {g : α → β} {t : Form α}

@[simp] theorem isNothing_map (g : α → β) (t : Form α) : (t.map g).isNothing = t.isNothing := by
  cases t <;> simp [map, isNothing]

@[simp] theorem isBlock_map (g : α → β) (t : Form α) : (t.map g).isBlock = t.isBlock := by
  cases t <;> simp [map, isBlock]

theorem any_isBlock_map (g : α → β) (items : List (Form α)) :
    (items.map (map g)).any isBlock = items.any isBlock := by
  rw [List.any_map]
  exact congrArg items.any (funext (isBlock_map g))

theorem expr_map (f : β → Expr) (g : α → β) (t : Form α) :
    (t.map g).expr f = t.expr fun a => f (g a) := by
  induction t using of_children with | _ t ih
  cases t with
  | list items =>
    rw [map, expr, expr, List.map_map]
    exact congrArg Expr.array (List.map_congr_left ih)
  | concat lists => rw [map, expr, expr, ih lists (List.mem_singleton_self _)]
  | struct fields =>
    rw [map, expr, expr, List.filter_map, List.map_map]
    simp only [Function.comp_def, isNothing_map]
    refine congrArg Expr.object (List.map_congr_left fun e he => ?_)
    rw [ih e.2 (List.mem_map_of_mem (List.mem_filter.1 he).1)]
  | _ => simp [map, expr]

theorem encoded_map (f : β → Expr) (g : α → β) (t : Form α) :
    (t.map g).encoded f = t.encoded fun a => f (g a) := by
  induction t using of_children with | _ t ih
  cases t with
  | list items =>
    have hexprs : (items.map (map g)).map (expr f) = items.map (expr fun a => f (g a)) := by
      rw [List.map_map]
      exact List.map_congr_left fun t _ => expr_map f g t
    have hblocks : (items.map (map g)).filterMap (fun t => (t.encoded f).block?) =
        items.filterMap fun t => (t.encoded fun a => f (g a)).block? := by
      rw [List.filterMap_map]
      exact List.filterMap_congr fun t ht => congrArg Encoded.block? (ih t ht)
    rw [map, encoded, encoded, any_isBlock_map, hexprs, hblocks]
  | struct fields =>
    rw [map, encoded, encoded, List.map_map]
    refine congrArg Encoded.fields (List.map_congr_left fun e he => ?_)
    exact congrArg (e.1, ·) (ih e.2 (List.mem_map_of_mem he))
  | block own fields =>
    rw [map, encoded, encoded, List.map_map]
    refine congrArg (Encoded.block own) (List.map_congr_left fun e he => ?_)
    exact congrArg (e.1, ·) (ih e.2 (List.mem_map_of_mem he))
  | concat lists =>
    have hexpr := expr_map f g (.concat lists)
    rw [map] at hexpr
    simp only [map, encoded, hexpr]
  | _ => simp [map, encoded, expr]

@[simp] theorem isShown_map (g : α → β) (t : Form α) : (t.map g).IsShown ↔ t.IsShown := by
  induction t using of_children with | _ t ih
  cases t with
  | list items => rw [map, IsShown, IsShown, any_isBlock_map]
  | struct fields =>
    rw [map, IsShown, IsShown, List.forall_mem_map]
    exact forall₂_congr fun e he => ih e.2 (List.mem_map_of_mem he)
  | _ => simp [map, IsShown]

@[simp] theorem isPart_map (g : α → β) (t : Form α) : (t.map g).IsPart ↔ t.IsPart := by
  induction t using of_children with | _ t ih
  cases t with
  | list items =>
    rw [map, IsPart, IsPart, List.forall_mem_map]
    exact forall₂_congr fun t ht => by rw [isBlock_map, ih t ht]
  | struct fields =>
    rw [map, IsPart, IsPart, List.forall_mem_map]
    exact forall₂_congr fun e _ => isShown_map g e.2
  | block own fields =>
    rw [map, IsPart, IsPart, List.forall_mem_map]
    exact forall₂_congr fun e he => ih e.2 (List.mem_map_of_mem he)
  | _ => simp [map, IsPart]

theorem holes_map (g : α → β) (t : Form α) : (t.map g).holes = t.holes.map g := by
  induction t using of_children with | _ t ih
  cases t with
  | list items =>
    rw [map, holes, holes, List.flatMap_map, List.map_flatMap]
    exact List.flatMap_congr ih
  | concat lists => rw [map, holes, holes, ih lists (List.mem_singleton_self _)]
  | struct fields =>
    rw [map, holes, holes, List.flatMap_map, List.map_flatMap]
    exact List.flatMap_congr fun e he => ih e.2 (List.mem_map_of_mem he)
  | block own fields =>
    rw [map, holes, holes, List.flatMap_map, List.map_flatMap]
    exact List.flatMap_congr fun e he => ih e.2 (List.mem_map_of_mem he)
  | _ => simp [map, holes]

/-- What stands in the holes is all that matters. -/
theorem map_congr {g g' : α → β} {t : Form α} (h : ∀ a ∈ t.holes, g a = g' a) :
    t.map g = t.map g' := by
  induction t using of_children with | _ t ih
  cases t with
  | hole a => rw [map, map, h a (by simp [holes])]
  | list items =>
    rw [holes, List.forall_mem_flatMap] at h
    have hitems : items.map (map g) = items.map (map g') :=
      List.map_congr_left fun t ht => ih t ht (h t ht)
    rw [map, map, hitems]
  | concat lists =>
    rw [holes] at h
    rw [map, map, ih lists (List.mem_singleton_self _) h]
  | struct fields =>
    rw [holes, List.forall_mem_flatMap] at h
    rw [map, map, List.map_congr_left fun e he =>
      congrArg (e.1, ·) (ih e.2 (List.mem_map_of_mem he) (h e he))]
  | block own fields =>
    rw [holes, List.forall_mem_flatMap] at h
    rw [map, map, List.map_congr_left fun e he =>
      congrArg (e.1, ·) (ih e.2 (List.mem_map_of_mem he) (h e he))]
  | _ => simp [map]

theorem encoded_congr (h : ∀ a ∈ t.holes, f a = f' a) : t.encoded f = t.encoded f' := by
  have hencoded (f : α → Expr) : (t.map f).encoded id = t.encoded f := encoded_map id f t
  rw [← hencoded, map_congr h, hencoded]

end Form

end AgentConvert
