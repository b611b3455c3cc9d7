import AgentConvert.Proofs.Draft
import AgentConvert.Proofs.Formatted.Messages
import AgentConvert.Proofs.Formatted.Names

/-!
# Sound drafts

A draft is sound (`Draft.IsSound`) if a text can spell each of its blocks, and none of its findings
says that a block could not be built. Fields that have names and can stand in a block make a sound
draft (`Draft.isSound_blockWith`), if their references can be spelled; what a block with a label
exports can (`isPath_exportPath`).
-/

namespace AgentConvert

/-- What a block with a label exports can be spelled. -/
theorem isPath_exportPath {kind : ComponentKind} {label field : String}
    (hk : IsReference kind.segments) (hl : isIdentifier label = true)
    (hf : isIdentifier field = true) : Argument.IsPath (kind.exportPath label field) := by
  have hsegments := ComponentKind.dotted_exportPath hk.1 hl hf
  rw [Argument.IsPath, hsegments]
  refine ⟨⟨by simp, fun s hs => ?_⟩, fun s hs => ?_⟩
  · simp only [List.mem_append, List.mem_cons, List.not_mem_nil, or_false] at hs
    rcases hs with hs | rfl | rfl
    · exact hk.1.2 s hs
    · exact hl
    · exact hf
  · obtain ⟨first, rest, heq⟩ := List.exists_cons_of_ne_nil hk.1.1
    rw [heq] at hs hk
    exact hk.2 s hs

theorem wellFormed_map_statement {blocks : List Block}
    (h : ∀ b ∈ blocks, b.statement.WellFormed) : Body.WellFormed (blocks.map Block.statement) := by
  induction blocks with
  | nil => trivial
  | cons b blocks ih =>
    exact ⟨h b (List.mem_cons_self ..), ih fun c hc => h c (List.mem_cons_of_mem _ hc)⟩

namespace Draft

/-- Whether a text can spell the blocks of a draft, and no block was left out because it could not
be built. -/
structure IsSound (d : Draft) : Prop where
  blocks : ∀ b ∈ d.blocks, b.statement.WellFormed
  findings : Diagnostics.AreClean d.findings

variable {a b d : Draft}

theorem IsSound.wellFormed (h : d.IsSound) : d.document.WellFormed :=
  wellFormed_map_statement h.blocks

@[simp] theorem isSound_empty : empty.IsSound :=
  ⟨fun _ hb => absurd hb List.not_mem_nil, Diagnostics.areClean_nil⟩

@[simp] theorem isSound_report {ds : Diagnostics} :
    (report ds).IsSound ↔ Diagnostics.AreClean ds :=
  ⟨fun h => h.findings, fun h => ⟨fun _ hb => absurd hb List.not_mem_nil, h⟩⟩

@[simp] theorem isSound_append : (a ++ b).IsSound ↔ a.IsSound ∧ b.IsSound := by
  constructor
  · rintro ⟨hblocks, hfindings⟩
    rw [blocks_append, List.forall_mem_append] at hblocks
    rw [findings_append, Diagnostics.areClean_append] at hfindings
    exact ⟨⟨hblocks.1, hfindings.1⟩, ⟨hblocks.2, hfindings.2⟩⟩
  · rintro ⟨ha, hb⟩
    refine ⟨?_, ?_⟩
    · rw [blocks_append, List.forall_mem_append]
      exact ⟨ha.blocks, hb.blocks⟩
    · rw [findings_append, Diagnostics.areClean_append]
      exact ⟨ha.findings, hb.findings⟩

theorem isSound_concat {ds : List Draft} (h : ∀ d ∈ ds, d.IsSound) : (concat ds).IsSound := by
  refine ⟨fun b hb => ?_, Diagnostics.areClean_flatMap fun d hd => (h d hd).findings⟩
  obtain ⟨d, hd, hb⟩ := List.mem_flatMap.1 hb
  exact (h d hd).blocks b hb

@[simp] theorem isSound_when {condition : Bool} :
    (Draft.when condition d).IsSound ↔ (condition = true → d.IsSound) := by
  cases condition <;> simp [Draft.when]

theorem isSound_ofOption {α : Type} {f : α → Draft} {o : Option α}
    (h : ∀ a ∈ o, (f a).IsSound) : (ofOption f o).IsSound := by
  cases o with
  | none => exact isSound_empty
  | some a => exact h a rfl

variable {refs : List String} {holes : List Placeholder} {fields : Fields} {kind : ComponentKind}

/-- Fields with names that can stand in a block make a sound draft. -/
theorem isSound_blockWith {g : Special → Special.Answer} (hg : Argument.FillsPlaceholders g)
    (hk : kind.IsNamed) (hrefs : ∀ path ∈ refs, Argument.IsPath path)
    (hholes : ∀ hole ∈ holes, (renderBy g (.placeholder hole)).WellFormed)
    (h : Argument.AreParts (Special.Uses refs holes) fields) (hn : Argument.AreNamed fields)
    (label : String) : (blockWith (overrideBy g) kind label (.record fields)).IsSound := by
  rw [blockWith_eq g h]
  refine ⟨fun b hb => ?_, Diagnostics.areClean_nil⟩
  obtain rfl := List.mem_singleton.1 hb
  exact ⟨hk, Argument.wellFormed_parts_uses hg hrefs hholes h hn⟩

theorem isSound_block (hk : kind.IsNamed) (hrefs : ∀ path ∈ refs, Argument.IsPath path)
    (h : Argument.AreParts (Special.Uses refs []) fields) (hn : Argument.AreNamed fields)
    (label : String) : (block kind label (.record fields)).IsSound :=
  isSound_blockWith (fun _ _ => rfl) hk hrefs (fun _ hh => absurd hh (by simp)) h hn label

end Draft

end AgentConvert
