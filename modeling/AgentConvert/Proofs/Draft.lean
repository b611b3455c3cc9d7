import AgentConvert.Draft
import AgentConvert.Proofs.Argument.Paths
import Mathlib.Data.List.Forall2

/-!
# Blocks of drafts

The blocks of a document are those of its draft (`Draft.blocks_document`), and fields that can stand
in a block always make one (`Draft.blockWith_eq`).
-/

namespace AgentConvert

theorem Body.blocks_map_statement (blocks : List Block) :
    Body.blocks (blocks.map Block.statement) = blocks := by
  induction blocks with
  | nil => rfl
  | cons b blocks ih =>
    show b :: Body.blocks (blocks.map Block.statement) = _
    rw [ih]

/-- Lists that go together item by item have the same parts, if the items have. -/
theorem flatMap_eq_of_forall₂ {α β γ : Type} {f : α → List γ} {g : β → List γ} {as : List α}
    {bs : List β} (h : List.Forall₂ (fun a b => f a = g b) as bs) :
    as.flatMap f = bs.flatMap g := by
  induction h with
  | nil => rfl
  | cons hab _ ih => rw [List.flatMap_cons, List.flatMap_cons, hab, ih]

/-- Lists that go together item by item do so along a third one. -/
theorem forall₂_zip {α β γ : Type} {r : α → β → Prop} {as : List α} {bs : List β}
    (h : List.Forall₂ r as bs) (cs : List γ) :
    List.Forall₂ (fun x y => r x.1 y.1 ∧ x.2 = y.2) (as.zip cs) (bs.zip cs) := by
  induction h generalizing cs with
  | nil => exact .nil
  | cons hab _ ih =>
    cases cs with
    | nil => exact .nil
    | cons c cs => exact .cons ⟨hab, rfl⟩ (ih cs)

namespace Draft

theorem blocks_document (d : Draft) : Body.blocks d.document = d.blocks :=
  Body.blocks_map_statement d.blocks

theorem document_append (d e : Draft) : (d ++ e).document = d.document ++ e.document :=
  List.map_append

theorem document_concat (ds : List Draft) : (concat ds).document = ds.flatMap document := by
  rw [document, blocks_concat, List.map_flatMap]
  rfl

@[simp] theorem blocks_empty : empty.blocks = [] := rfl

@[simp] theorem blocks_report (ds : Diagnostics) : (report ds).blocks = [] := rfl

@[simp] theorem findings_empty : empty.findings = [] := rfl

@[simp] theorem append_empty (d : Draft) : d ++ empty = d := by
  show Draft.mk (d.blocks ++ []) (d.findings ++ []) = d
  rw [List.append_nil, List.append_nil]

@[simp] theorem findings_report (ds : Diagnostics) : (report ds).findings = ds := rfl

/-- Fields that can stand in a block make a block of their parts, and nothing to report. -/
theorem blockWith_eq {p : Special → Prop} {fields : Fields} (g : Special → Special.Answer)
    (h : Argument.AreParts p fields) (kind : ComponentKind) (label : String) :
    blockWith (overrideBy g) kind label (.record fields) =
      ⟨[⟨kind.segments, if label = "" then none else some label,
        Argument.parts (renderBy g) fields⟩], []⟩ := by
  rw [blockWith, Block.build_parts g h]

theorem blocks_blockWith {p : Special → Prop} {fields : Fields} (g : Special → Special.Answer)
    (h : Argument.AreParts p fields) (kind : ComponentKind) (label : String) :
    (blockWith (overrideBy g) kind label (.record fields)).blocks =
      [⟨kind.segments, if label = "" then none else some label,
        Argument.parts (renderBy g) fields⟩] := by
  rw [blockWith_eq g h]

theorem block_eq {p : Special → Prop} {fields : Fields} (h : Argument.AreParts p fields)
    (kind : ComponentKind) (label : String) :
    block kind label (.record fields) =
      ⟨[⟨kind.segments, if label = "" then none else some label,
        Argument.parts Special.render fields⟩], []⟩ := by
  rw [block, noOverride_eq, blockWith_eq _ h, renderBy_error]

theorem findings_blockWith {p : Special → Prop} {fields : Fields} (g : Special → Special.Answer)
    (h : Argument.AreParts p fields) (kind : ComponentKind) (label : String) :
    (blockWith (overrideBy g) kind label (.record fields)).findings = [] := by
  rw [blockWith_eq g h]

theorem findings_block {p : Special → Prop} {fields : Fields} (h : Argument.AreParts p fields)
    (kind : ComponentKind) (label : String) :
    (block kind label (.record fields)).findings = [] := by
  rw [block_eq h]

theorem findings_when {d : Draft} (condition : Bool) (h : condition = true → d.findings = []) :
    (when condition d).findings = [] := by
  cases condition with
  | false => rfl
  | true => exact h rfl

end Draft

end AgentConvert
