import AgentConvert.Proofs.Component

/-!
# Routes through a document

A block that forwards names the receivers of other blocks in its `forward_to`. A route from a block
goes on from receiver to receiver and ends at a block that forwards to nothing more (`Route`). What
a block names as a path of its kind and label is what no other block of the document exports
(`Block.export?_eq_some_iff`), so the routes from a block are read off the paths in its `forward_to`
(`Route.iff_of_forwards`).
-/

namespace AgentConvert

/-! ## Blocks by kind and label -/

/-- The blocks of this kind with this label. -/
def blocksAt (document : List Block) (kind : ComponentKind) (label : String) : List Block :=
  document.filter fun b => b.name = kind.segments ∧ b.label = some label

section

variable {kind : ComponentKind} {label field : String} {document : List Block} {b : Block}

theorem mem_blocksAt : b ∈ blocksAt document kind label ↔
    b ∈ document ∧ b.name = kind.segments ∧ b.label = some label := by
  simp [blocksAt]

theorem blocksAt_eq_nil (h : ∀ b ∈ document, b.name = kind.segments → b.label ≠ some label) :
    blocksAt document kind label = [] := by
  refine List.filter_eq_nil_iff.2 fun b hb => ?_
  simpa using h b hb

/-! ## What blocks export -/

/-- The path of a field as the block of this kind and label exports it. -/
def ComponentKind.reference (kind : ComponentKind) (label field : String) : Expr :=
  .path (kind.segments ++ [label, field])

theorem ComponentKind.ofDotted_exportPath (h : kind.IsNamed) (hl : isIdentifier label = true)
    (hf : isIdentifier field = true) :
    Expr.ofDotted (kind.exportPath label field) = kind.reference label field := by
  rw [Expr.ofDotted, dotted_exportPath h hl hf, reference]

/-- The path of a field as the block exports it; a block without a label exports nothing. -/
def Block.export? (b : Block) (field : String) : Option Expr :=
  b.label.map fun label => .path (b.name ++ [label, field])

/-- A block exports what is named by its kind and label, and nothing else. -/
theorem Block.export?_eq_some_iff :
    b.export? field = some (kind.reference label field) ↔
      b.name = kind.segments ∧ b.label = some label := by
  rw [export?, Option.map_eq_some_iff]
  constructor
  · rintro ⟨own, hown, heq⟩
    obtain ⟨hname, hlast⟩ := List.append_inj' (Expr.path.inj heq) rfl
    rw [hown, (List.cons.inj hlast).1]
    exact ⟨hname, rfl⟩
  · rintro ⟨hname, hlabel⟩
    exact ⟨label, hlabel, by rw [hname, ComponentKind.reference]⟩

end

/-! ## Routes -/

/-- Whether `way` lists, in order, the blocks that entries of `b` pass until they are forwarded no
further. -/
inductive Route (document : List Block) : Block → List Block → Prop
  | last {b : Block} (h : b.attribute? "forward_to" = none) : Route document b []
  | step {b c : Block} {receivers : List Expr} {receiver : Expr} {way : List Block}
      (hforward : b.attribute? "forward_to" = some (.array receivers))
      (hmem : receiver ∈ receivers) (hc : c ∈ document)
      (hexport : c.export? "receiver" = some receiver) (hway : Route document c way) :
      Route document b (c :: way)

namespace Route

variable {document way : List Block} {b : Block}

/-- A block that forwards nothing is the end of its only route. -/
theorem iff_nil (h : b.attribute? "forward_to" = none) : Route document b way ↔ way = [] := by
  constructor
  · intro hroute
    cases hroute with
    | last => rfl
    | step hforward => exact absurd (h.symm.trans hforward) (by simp)
  · rintro rfl
    exact .last h

/-- The routes of a block that forwards to receivers by their kinds and labels go on with the
blocks at these. -/
theorem iff_of_forwards {ends : List (ComponentKind × String)}
    (h : b.attribute? "forward_to" =
      some (.array (ends.map fun e => e.1.reference e.2 "receiver"))) :
    Route document b way ↔
      ∃ e ∈ ends, ∃ c ∈ blocksAt document e.1 e.2, ∃ rest, way = c :: rest ∧
        Route document c rest := by
  constructor
  · intro hroute
    cases hroute with
    | last hnone => exact absurd (h.symm.trans hnone) (by simp)
    | @step _ c receivers receiver rest hforward hmem hc hexport hway =>
      rw [h, Option.some.injEq, Expr.array.injEq] at hforward
      subst hforward
      obtain ⟨e, he, rfl⟩ := List.mem_map.1 hmem
      exact ⟨e, he, c, mem_blocksAt.2 ⟨hc, Block.export?_eq_some_iff.1 hexport⟩, rest, rfl, hway⟩
  · rintro ⟨e, he, c, hc, rest, rfl, hway⟩
    obtain ⟨hdocument, hat⟩ := mem_blocksAt.1 hc
    exact .step h (List.mem_map_of_mem he) hdocument (Block.export?_eq_some_iff.2 hat) hway

/-- A block that forwards to one receiver passes the one block there. -/
theorem iff_of_forwards_one {kind : ComponentKind} {label : String} {c : Block}
    (h : b.attribute? "forward_to" = some (.array [kind.reference label "receiver"]))
    (hat : blocksAt document kind label = [c]) :
    Route document b way ↔ ∃ rest, way = c :: rest ∧ Route document c rest := by
  have hends : b.attribute? "forward_to" =
      some (.array ([(kind, label)].map fun e => e.1.reference e.2 "receiver")) := h
  rw [iff_of_forwards hends]
  simp [hat]

/-- A block that forwards to one other whose routes pass the same blocks and differ in their ends
only has such routes too. -/
theorem iff_ends_of_forwards_one {kind : ComponentKind} {label : String} {c : Block}
    {between ends : List Block}
    (h : b.attribute? "forward_to" = some (.array [kind.reference label "receiver"]))
    (hat : blocksAt document kind label = [c])
    (hroutes : ∀ rest, Route document c rest ↔ ∃ w ∈ ends, rest = between ++ [w]) :
    Route document b way ↔ ∃ w ∈ ends, way = c :: between ++ [w] := by
  rw [iff_of_forwards_one h hat]
  constructor
  · rintro ⟨rest, rfl, hroute⟩
    obtain ⟨w, hw, rfl⟩ := (hroutes rest).1 hroute
    exact ⟨w, hw, rfl⟩
  · rintro ⟨w, hw, rfl⟩
    exact ⟨between ++ [w], rfl, (hroutes _).2 ⟨w, hw, rfl⟩⟩

end Route

end AgentConvert
