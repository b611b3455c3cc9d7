import AgentConvert.Proofs.Routing.Blocks

/-!
# Where targets come from

A block that takes targets names, in its `targets`, what other blocks export: the targets of blocks
that discover them, which it gathers (`Expr.Gathers`), or the output of a block that relabels
targets, which takes them from elsewhere itself. So a block is supplied by blocks that discover,
past blocks that relabel (`Supplied`).

What is exported in a document whose blocks have places of their own is exported by one block
(`Block.eq_of_export?`), so the supply of a block is read off its `targets`
(`Supplied.iff_of_gathers`, `Supplied.iff_of_output`).
-/

namespace AgentConvert

variable {document : List Block} {b c : Block} {e : Expr}

/-! ## Exports in a document -/

namespace Block

variable {field field' : String}

/-- Blocks that export the same have the same place, and export the same field. -/
theorem place_eq_of_export? (hb : b.export? field = some e) (hc : c.export? field' = some e) :
    b.place = c.place ∧ field = field' := by
  obtain ⟨label, hlabel, rfl⟩ := Option.map_eq_some_iff.1 hb
  obtain ⟨label', hlabel', heq⟩ := Option.map_eq_some_iff.1 hc
  obtain ⟨hname, hlast⟩ := List.append_inj' (Expr.path.inj heq) rfl
  obtain ⟨rfl, hfield⟩ := List.cons.inj hlast
  exact ⟨Prod.ext hname.symm (hlabel.trans hlabel'.symm), (List.cons.inj hfield).1.symm⟩

/-- In a document whose blocks have places of their own, one block exports what is exported. -/
theorem eq_of_export? (hnodup : (document.map place).Nodup) (hb : b ∈ document) (hc : c ∈ document)
    (hb' : b.export? field = some e) (hc' : c.export? field' = some e) : b = c :=
  List.inj_on_of_nodup_map hnodup hb hc (place_eq_of_export? hb' hc').1

/-- Blocks with identities of their own have places of their own. -/
theorem nodup_places (h : (document.map identity).Nodup) : (document.map place).Nodup := by
  refine List.Nodup.of_map (fun p => (dottedName p.1, p.2)) ?_
  rw [List.map_map]
  exact h

end Block

/-! ## Gathering targets -/

/-- Whether an expression gathers `exports`, in order: none make the empty list, one is taken as it
is, and several are concatenated. -/
inductive Expr.Gathers : Expr → List Expr → Prop
  | nothing : Gathers (.array []) []
  | one (segments : List String) : Gathers (.path segments) [.path segments]
  | several {exports : List Expr} (h : 2 ≤ exports.length) :
      Gathers (.call ["concat"] exports) exports

theorem Expr.Gathers.unique {exports exports' : List Expr} (h : e.Gathers exports)
    (h' : e.Gathers exports') : exports = exports' := by
  cases h with
  | nothing | one | several => cases h'; rfl

/-- What the source for exported targets stands for gathers them. -/
theorem TargetSource.gathers_ofExports (paths : List String) :
    ((ofExports paths).argument.expr Special.render).Gathers (paths.map Expr.ofDotted) := by
  match paths with
  | [] => exact .nothing
  | [path] => exact .one _
  | path :: path' :: paths =>
    have hexpr : (joined (path :: path' :: paths)).argument.expr Special.render =
        .call ["concat"] ((path :: path' :: paths).map Expr.ofDotted) := by
      rw [argument, Argument.expr, Argument.expr_references]
      rfl
    show ((joined (path :: path' :: paths)).argument.expr Special.render).Gathers _
    rw [hexpr]
    exact .several (by simp)

/-! ## Supplies -/

/-- Whether these targets are what the block exports, in the document. -/
def DiscoveredBy (document : List Block) (targets : Expr) (c : Block) : Prop :=
  c ∈ document ∧ c.export? "targets" = some targets

/-- Whether `b` takes the targets that the blocks `sources` discover, in order, past the blocks
`passed`, of which the first is the last to relabel them. -/
inductive Supplied (document : List Block) : Block → List Block → List Block → Prop
  | gathered {b : Block} {e : Expr} {exports : List Expr} {sources : List Block}
      (htargets : b.attribute? "targets" = some e) (hgathers : e.Gathers exports)
      (hsources : List.Forall₂ (DiscoveredBy document) exports sources) :
      Supplied document b [] sources
  | relabelled {b c : Block} {e : Expr} {passed sources : List Block}
      (htargets : b.attribute? "targets" = some e) (hc : c ∈ document)
      (hexport : c.export? "output" = some e) (hsupplied : Supplied document c passed sources) :
      Supplied document b (c :: passed) sources

namespace Supplied

variable {passed sources found : List Block} {exports : List Expr}

/-- The output of a block is not what is gathered from blocks that discover. -/
theorem not_gathers_output (hexport : c.export? "output" = some e) (hgathers : e.Gathers exports)
    (hfound : List.Forall₂ (DiscoveredBy document) exports found) : False := by
  obtain ⟨label, -, rfl⟩ := Option.map_eq_some_iff.1 hexport
  cases hgathers
  cases hfound with
  | cons hsource =>
    have hfield := (Block.place_eq_of_export? hexport hsource.2).2
    exact absurd hfield (by decide)

/-- A block that gathers what blocks export is supplied by these. -/
theorem iff_of_gathers (hnodup : (document.map Block.place).Nodup)
    (h : b.attribute? "targets" = some e) (hgathers : e.Gathers exports)
    (hfound : List.Forall₂ (DiscoveredBy document) exports found) :
    Supplied document b passed sources ↔ passed = [] ∧ sources = found := by
  constructor
  · intro hsupplied
    cases hsupplied with
    | gathered htargets hgathers' hsources =>
      obtain rfl := Option.some.inj (h.symm.trans htargets)
      obtain rfl := hgathers.unique hgathers'
      refine ⟨rfl, List.right_unique_forall₂' (fun targets c c' hc hc' => ?_) hsources hfound⟩
      exact Block.eq_of_export? hnodup hc.1 hc'.1 hc.2 hc'.2
    | relabelled htargets hc hexport =>
      obtain rfl := Option.some.inj (h.symm.trans htargets)
      exact (not_gathers_output hexport hgathers hfound).elim
  · rintro ⟨rfl, rfl⟩
    exact .gathered h hgathers hfound

/-- A block that takes the output of another is supplied by what supplies that one. -/
theorem iff_of_output (hnodup : (document.map Block.place).Nodup)
    (h : b.attribute? "targets" = some e) (hc : c ∈ document)
    (hexport : c.export? "output" = some e) :
    Supplied document b passed sources ↔
      ∃ rest, passed = c :: rest ∧ Supplied document c rest sources := by
  constructor
  · intro hsupplied
    cases hsupplied with
    | gathered htargets hgathers hsources =>
      obtain rfl := Option.some.inj (h.symm.trans htargets)
      exact (not_gathers_output hexport hgathers hsources).elim
    | @relabelled _ d _ rest _ htargets hd hexport' hsupplied =>
      obtain rfl := Option.some.inj (h.symm.trans htargets)
      obtain rfl := Block.eq_of_export? hnodup hc hd hexport hexport'
      exact ⟨rest, rfl, hsupplied⟩
  · rintro ⟨rest, rfl, hsupplied⟩
    exact .relabelled h hc hexport hsupplied

/-- Without a source, and past one block at most, no targets are listed. -/
theorem attribute?_of_nil {rules : Option Block} (h : Supplied document b rules.toList []) :
    (rules.getD b).attribute? "targets" = some (.array []) := by
  have hgathered : ∀ {b : Block}, Supplied document b [] [] →
      b.attribute? "targets" = some (.array []) := by
    intro b h
    cases h with
    | gathered htargets hgathers hsources =>
      cases hsources
      cases hgathers with
      | nothing => exact htargets
      | several h => exact absurd h (by simp)
  cases rules with
  | none => exact hgathered h
  | some r =>
    cases h with
    | relabelled _ _ _ hsupplied => exact hgathered hsupplied

end Supplied

end AgentConvert
