import AgentConvert.Proofs.Component
import AgentConvert.Proofs.Draft
import AgentConvert.Proofs.Label

/-!
# References and what they name

A block with a label exports fields, which paths name by its kind, its label and the field
(`Block.Exports`). A draft resolves its references up to some outer ones (`Draft.Resolves`) if every
path in it names a field of one of its blocks, or is one of these. Drafts that are put together
resolve each other's references (`Draft.Resolves.supply`), and in a document that resolves all of
them the check finds nothing (`References.check_eq_nil`).
-/

namespace AgentConvert

/-! ## Paths in blocks -/

theorem mem_exprsOfBody {body : Body} {e : Expr} :
    e ∈ exprsOfBody body ↔ ∃ s ∈ body, e ∈ s.exprs := by
  induction body with
  | nil => simp [exprsOfBody]
  | cons s body ih => simp [exprsOfBody, ih]

theorem Expr.mem_walkItems {items : List Expr} {e : Expr} :
    e ∈ walkItems items ↔ ∃ item ∈ items, e ∈ item.walk := by
  induction items with
  | nil => simp [walkItems]
  | cons item items ih => simp [walkItems, ih]

namespace Block

variable {b : Block}

/-- The expressions in a nested block are among those of the block. -/
theorem mem_exprs_of_mem_blocks {out : Block} {e : Expr} (hout : out ∈ b.blocks)
    (he : e ∈ exprsOfBody out.body) : e ∈ exprsOfBody b.body := by
  obtain ⟨s, hs, hout⟩ := List.mem_filterMap.1 hout
  cases s with
  | «attribute» name value => exact absurd hout (by simp)
  | block name label nested =>
    obtain rfl := Option.some.inj hout
    exact mem_exprsOfBody.2 ⟨_, hs, he⟩

/-- The value of an attribute is one of the statements of the block. -/
theorem mem_body_of_attribute? {name : String} {value : Expr}
    (h : b.attribute? name = some value) : .attribute name value ∈ b.body := by
  obtain ⟨s, hs, hvalue⟩ := List.exists_of_findSome?_eq_some h
  cases s with
  | «attribute» own v =>
    dsimp only at hvalue
    split at hvalue
    · rename_i hown
      rw [← Option.some.inj hvalue, ← beq_iff_eq.1 hown]
      exact hs
    · exact absurd hvalue (by simp)
  | block _ _ _ => exact absurd hvalue (by simp)

/-- The paths that an attribute lists are paths in the block. -/
theorem path_mem_of_attribute? {name : String} {items : List Expr} {segments : List String}
    (h : b.attribute? name = some (.array items)) (hmem : .path segments ∈ items) :
    .path segments ∈ exprsOfBody b.body := by
  refine mem_exprsOfBody.2 ⟨_, mem_body_of_attribute? h, ?_⟩
  rw [Statement.exprs, Expr.walk, List.mem_cons, Expr.mem_walkItems]
  exact .inr ⟨_, hmem, List.mem_singleton_self _⟩

end Block

/-! ## Drafts -/

/-- Whether `segments` name a field that the block exports. -/
def Block.Exports (b : Block) (segments : List String) : Prop :=
  b.name ≠ [] ∧ ∃ label field, b.label = some label ∧ segments = b.name ++ [label, field]

/-- Blocks that export the same have the same name and label. -/
theorem Block.Exports.same {b c : Block} {segments : List String} (hb : b.Exports segments)
    (hc : c.Exports segments) : b.name = c.name ∧ b.label = c.label := by
  obtain ⟨-, label, field, hlabel, rfl⟩ := hb
  obtain ⟨-, label', field', hlabel', heq⟩ := hc
  obtain ⟨hname, hrest⟩ := List.append_inj' heq rfl
  exact ⟨hname, by rw [hlabel, hlabel', (List.cons.inj hrest).1]⟩

namespace Draft

variable {a b d : Draft} {refs refs' outer outer' segments : List String}

theorem mem_paths_document :
    segments ∈ References.paths d.document ↔ ∃ b ∈ d.blocks, .path segments ∈ exprsOfBody b.body := by
  obtain ⟨blocks, findings⟩ := d
  rw [mem_paths, document]
  induction blocks with
  | nil => simp [exprsOfBody]
  | cons b blocks ih => simp [exprsOfBody, Block.statement, Statement.exprs, ih]

/-! ## What a draft exports -/

/-- Whether `segments` name a field that a block of the draft exports. -/
def Exports (d : Draft) (segments : List String) : Prop := ∃ b ∈ d.blocks, b.Exports segments

@[simp] theorem exports_append : (a ++ b).Exports segments ↔ a.Exports segments ∨ b.Exports segments := by
  simp [Exports, or_and_right, exists_or]

@[simp] theorem exports_concat {ds : List Draft} :
    (concat ds).Exports segments ↔ ∃ d ∈ ds, d.Exports segments := by
  simp only [Exports, blocks_concat, List.mem_flatMap]
  constructor
  · rintro ⟨b, ⟨d, hd, hb⟩, h⟩
    exact ⟨d, hd, b, hb, h⟩
  · rintro ⟨d, hd, b, hb, h⟩
    exact ⟨b, ⟨d, hd, hb⟩, h⟩

@[simp] theorem exports_when {condition : Bool} :
    (Draft.when condition d).Exports segments ↔ condition = true ∧ d.Exports segments := by
  cases condition <;> simp [Draft.when, Exports]

/-- A block with a label exports any field under its kind and label. -/
theorem exports_blockWith {p : Special → Prop} {fields : Fields} {kind : ComponentKind}
    {label field : String} (g : Special → Special.Answer) (h : Argument.AreParts p fields)
    (hk : kind.IsNamed) (hl : isIdentifier label = true) (hf : isIdentifier field = true) :
    (blockWith (overrideBy g) kind label (.record fields)).Exports
      (dotted (kind.exportPath label field)) := by
  rw [Exports, blocks_blockWith g h, if_neg (ne_of_isIdentifier hl)]
  refine ⟨_, List.mem_singleton_self _, hk.1, label, field, rfl, ?_⟩
  exact ComponentKind.dotted_exportPath hk hl hf

theorem exports_block {p : Special → Prop} {fields : Fields} {kind : ComponentKind}
    {label field : String} (h : Argument.AreParts p fields) (hk : kind.IsNamed)
    (hl : isIdentifier label = true) (hf : isIdentifier field = true) :
    (block kind label (.record fields)).Exports (dotted (kind.exportPath label field)) :=
  exports_blockWith .error h hk hl hf

/-! ## What a draft refers to -/

/-- Whether every path in the draft is one of `refs`. -/
def RefersTo (d : Draft) (refs : List String) : Prop :=
  ∀ segments ∈ References.paths d.document, ∃ path ∈ refs, segments = dotted path

theorem RefersTo.mono (h : d.RefersTo refs) (hsub : refs ⊆ refs') : d.RefersTo refs' := by
  intro segments hs
  obtain ⟨path, hpath, rfl⟩ := h segments hs
  exact ⟨path, hsub hpath, rfl⟩

@[simp] theorem refersTo_empty : empty.RefersTo refs := by
  simp [RefersTo, mem_paths_document]

@[simp] theorem refersTo_report (ds : Diagnostics) : (report ds).RefersTo refs := by
  simp [RefersTo, mem_paths_document]

@[simp] theorem refersTo_append : (a ++ b).RefersTo refs ↔ a.RefersTo refs ∧ b.RefersTo refs := by
  simp only [RefersTo, mem_paths_document, blocks_append, List.mem_append]
  constructor
  · intro h
    exact ⟨fun s ⟨b, hb, hs⟩ => h s ⟨b, .inl hb, hs⟩, fun s ⟨b, hb, hs⟩ => h s ⟨b, .inr hb, hs⟩⟩
  · rintro ⟨ha, hb⟩ s ⟨b, h | h, hs⟩
    · exact ha s ⟨b, h, hs⟩
    · exact hb s ⟨b, h, hs⟩

@[simp] theorem refersTo_concat {ds : List Draft} :
    (concat ds).RefersTo refs ↔ ∀ d ∈ ds, d.RefersTo refs := by
  simp only [RefersTo, mem_paths_document, blocks_concat, List.mem_flatMap]
  constructor
  · intro h d hd s hs
    obtain ⟨b, hb, hs⟩ := hs
    exact h s ⟨b, ⟨d, hd, hb⟩, hs⟩
  · rintro h s ⟨b, ⟨d, hd, hb⟩, hs⟩
    exact h d hd s ⟨b, hb, hs⟩

@[simp] theorem refersTo_when {condition : Bool} :
    (Draft.when condition d).RefersTo refs ↔ (condition = true → d.RefersTo refs) := by
  cases condition <;> simp [Draft.when]

/-- A block refers to its references, and to what stands for its placeholders. -/
theorem refersTo_blockWith {fields : Fields} {holes : List Placeholder}
    {g : Special → Special.Answer} (hg : Argument.FillsPlaceholders g)
    (h : Argument.AreParts (Special.Uses refs holes) fields)
    (hholes : ∀ hole ∈ holes, ∀ segments,
      .path segments ∈ (renderBy g (.placeholder hole)).walk → ∃ path ∈ refs, segments = dotted path)
    (kind : ComponentKind) (label : String) :
    (blockWith (overrideBy g) kind label (.record fields)).RefersTo refs := by
  intro segments hs
  rw [mem_paths_document, blocks_blockWith g h] at hs
  obtain ⟨b, hb, hs⟩ := hs
  obtain rfl := List.mem_singleton.1 hb
  rcases Argument.path_mem_parts_uses hg h hs with h | ⟨hole, hmem, hs⟩
  · exact h
  · exact hholes hole hmem segments hs

theorem refersTo_block {fields : Fields} (h : Argument.AreParts (Special.Uses refs []) fields)
    (kind : ComponentKind) (label : String) : (block kind label (.record fields)).RefersTo refs :=
  refersTo_blockWith (fun _ _ => rfl) h (fun hole hh => absurd hh (by simp)) kind label

/-! ## Drafts that resolve their references -/

/-- Whether every path in the draft names a field of one of its blocks, or is one of `outer`. -/
def Resolves (d : Draft) (outer : List String) : Prop :=
  ∀ segments ∈ References.paths d.document,
    d.Exports segments ∨ ∃ path ∈ outer, segments = dotted path

/-- A draft that exports what it refers to, up to `outer`, resolves its references. -/
theorem RefersTo.resolves (h : d.RefersTo refs)
    (hrefs : ∀ path ∈ refs, d.Exports (dotted path) ∨ path ∈ outer) : d.Resolves outer := by
  intro segments hs
  obtain ⟨path, hpath, rfl⟩ := h segments hs
  rcases hrefs path hpath with hexports | houter
  · exact .inl hexports
  · exact .inr ⟨path, houter, rfl⟩

/-- A draft that refers to nothing has nothing to resolve. -/
theorem RefersTo.resolves_nil (h : d.RefersTo []) : d.Resolves outer :=
  h.resolves fun _ hpath => absurd hpath (by simp)

theorem resolves_report (ds : Diagnostics) : (report ds).Resolves outer :=
  (refersTo_report ds).resolves_nil

/-- A block that may be there and has plain fields refers to nothing. -/
theorem refersTo_ofOption {kind : ComponentKind} {label : String} {args : Option Argument}
    (h : ∀ a ∈ args, ∃ fields, a = .record fields ∧
      Argument.AreParts (Special.Uses refs []) fields) :
    (Draft.ofOption (block kind label) args).RefersTo refs := by
  cases args with
  | none => exact refersTo_empty
  | some args =>
    obtain ⟨fields, rfl, hfields⟩ := h args rfl
    exact refersTo_block hfields kind label

namespace Resolves

theorem append (ha : a.Resolves outer) (hb : b.Resolves outer) : (a ++ b).Resolves outer := by
  intro segments hs
  rw [mem_paths_document, blocks_append] at hs
  obtain ⟨block, hblock, hs⟩ := hs
  rw [exports_append]
  rcases List.mem_append.1 hblock with h | h
  · exact (ha segments (mem_paths_document.2 ⟨block, h, hs⟩)).imp_left .inl
  · exact (hb segments (mem_paths_document.2 ⟨block, h, hs⟩)).imp_left .inr

theorem concat {ds : List Draft} (h : ∀ d ∈ ds, d.Resolves outer) :
    (Draft.concat ds).Resolves outer := by
  intro segments hs
  rw [mem_paths_document, blocks_concat] at hs
  obtain ⟨block, hblock, hs⟩ := hs
  obtain ⟨d, hd, hblock⟩ := List.mem_flatMap.1 hblock
  rw [exports_concat]
  exact (h d hd segments (mem_paths_document.2 ⟨block, hblock, hs⟩)).imp_left fun h => ⟨d, hd, h⟩

/-- Outer references of a draft that its own blocks export need not be resolved elsewhere. -/
theorem supply (h : d.Resolves outer)
    (hsupply : ∀ path ∈ outer, d.Exports (dotted path) ∨ path ∈ outer') : d.Resolves outer' := by
  intro segments hs
  rcases h segments hs with h | ⟨path, hpath, rfl⟩
  · exact .inl h
  · exact (hsupply path hpath).imp_right fun h => ⟨path, h, rfl⟩

end Resolves

end Draft

/-! ## The check -/

namespace References

/-- A path that names a field of a block of the document does not dangle. -/
theorem not_dangles {body : Body} {b : Block} {segments : List String}
    (hb : b ∈ Body.blocks body) (h : b.Exports segments) : (known body).dangles segments = false := by
  obtain ⟨hname, label, field, hlabel, rfl⟩ := h
  have hcomponent : dottedName (b.name ++ [label]) ∈ components body := by
    refine List.mem_filterMap.2 ⟨b, hb, ?_⟩
    rw [dottedName_append hname, hlabel]
    simp [hname]
  have hlength : 0 < b.name.length := List.length_pos_iff.2 hname
  have hresolves : resolves (components body) (b.name ++ [label, field]) = true := by
    refine List.any_eq_true.2 ⟨b.name.length + 1, ?_, ?_⟩
    · simp
    · have htake : (b.name ++ [label, field]).take (b.name.length + 1) = b.name ++ [label] := by
        rw [List.take_append, List.take_of_length_le (Nat.le_succ _)]
        simp
      rw [htake, Bool.and_eq_true]
      exact ⟨decide_eq_true (by omega), List.contains_iff_mem.2 hcomponent⟩
  unfold Known.dangles
  split
  · rfl
  · show ((namespaces body).contains _ && !resolves (components body) _) = false
    rw [hresolves]
    simp

/-- In a document in which every path names a field of a block, the check finds nothing. -/
theorem check_eq_nil {body : Body}
    (h : ∀ segments ∈ paths body, ∃ b ∈ Body.blocks body, b.Exports segments) : check body = [] := by
  have hnone : (paths body).filter (known body).dangles = [] := by
    rw [List.filter_eq_nil_iff]
    intro segments hs
    obtain ⟨b, hb, hexports⟩ := h segments hs
    rw [not_dangles hb hexports]
    exact Bool.false_ne_true
  rw [check, dangling, hnone]
  rfl

end References

end AgentConvert
