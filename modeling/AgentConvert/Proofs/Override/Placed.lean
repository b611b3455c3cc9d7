import AgentConvert.Draft
import AgentConvert.Proofs.Override.Encodable

/-!
# Placed arguments

What an argument may be depends on where it stands (`Position`): blocks are fields of the whole
argument or of another block, or stand in a list that is such a field, and a record is what a block
is made of. An argument fits its place (`Argument.Fits`) just if it can be encoded and its form can
stand there (`Argument.fits_iff`), so a block is built of just those arguments that fit where the
whole argument stands (`Argument.isPlaced_iff`).
-/

namespace AgentConvert

/-- Where an argument, or a part of one, stands. -/
inductive Position where
  /-- Where a value is wanted: inside another value, as a key or as a payload. -/
  | value
  /-- As a field of a block. -/
  | field
  /-- In a list of blocks. -/
  | block
  /-- Where the fields of a block are wanted. -/
  | fields

namespace Position

/-- Whether a value can stand here. -/
def TakesValue (p : Position) : Prop := p = value ∨ p = field

/-- Where the fields of a record stand that stands here. -/
def inside : Position → Position
  | fields => field
  | _ => value

/-- Whether the form can stand here. -/
def Takes {α : Type} (t : Form α) : Position → Prop
  | value => t.IsShown
  | field => t.IsPart
  | block => t.isBlock = true ∧ t.IsPart
  | fields => ∃ es, t = .struct es ∧ ∀ e ∈ es, e.2.IsPart

end Position

namespace Argument

/-- Whether the argument fits its place. -/
def Fits : Argument → Position → Prop
  | .absent, p | .unit, p | .bool _, p | .int _, p | .text _, p => p.TakesValue
  | .float x, p => p.TakesValue ∧ x.isFinite = true
  | .wrapped a, p | .variant _ a, p => a.Fits p
  | .list items, p =>
    p.TakesValue ∧ (∀ a ∈ items, a.Fits .value) ∨
      p = .field ∧ items ≠ [] ∧ ∀ a ∈ items, a.Fits .block
  | .record fields, p => p ≠ .block ∧ ∀ e ∈ fields, e.2.Fits p.inside
  | .map entries, p =>
    p ≠ .block ∧ ∀ e ∈ entries, (e.1.Fits .value ∧ e.1.IsShownAsKey) ∧ e.2.Fits p.inside
  | .block a, p => (p = .field ∨ p = .block) ∧ a.Fits .fields
  | .special category a, p => p.TakesValue ∧ a.Fits .value ∧ a.IsPayloadOf category
  | .concat a, p => p.TakesValue ∧ a.Fits .value ∧ a.IsShownAsList
  | .keyless _, _ | .unsupported _, _ | .failing _, _ => False
termination_by a => a
decreasing_by
  all_goals first
    | decreasing_tactic
    | exact sizeOf_lt_of_mem_children (snd_mem_children ‹_›)
    | exact sizeOf_lt_of_mem_children (key_mem_children ‹_›)
    | exact sizeOf_lt_of_mem_children (value_mem_children ‹_›)

/-- Whether the argument is an optional value that is not there, perhaps under other names. -/
def IsAbsent : Argument → Prop
  | .absent => True
  | .wrapped a | .variant _ a => a.IsAbsent
  | _ => False

/-- Whether the argument can be that of a whole block. -/
def IsPlaced (a : Argument) : Prop := a.IsAbsent ∨ a.Fits .fields

end Argument

namespace Form

variable {α : Type} {t : Form α}

/-! ## Forms in places -/

theorem takes_named (own : String) (t : Form α) (p : Position) :
    p.Takes (t.named own) ↔ p.Takes t := by
  cases t with
  | block name fields =>
    cases name <;> cases p <;> simp [Position.Takes, named, IsShown, IsPart, isBlock]
  | _ => rfl

theorem isNothing_named (own : String) (t : Form α) : (t.named own).isNothing = t.isNothing := by
  cases t with
  | block name fields => cases name <;> rfl
  | _ => rfl

theorem takes_given (e : Expr) (p : Position) : p.Takes (given e : Form α) ↔ p.TakesValue := by
  cases p <;> simp [Position.Takes, Position.TakesValue, IsShown, IsPart, isBlock]

theorem takes_nothing (p : Position) : p.Takes (nothing : Form α) ↔ p.TakesValue := by
  cases p <;> simp [Position.Takes, Position.TakesValue, IsShown, IsPart, isBlock]

theorem takes_hole (a : α) (p : Position) : p.Takes (hole a) ↔ p.TakesValue := by
  cases p <;> simp [Position.Takes, Position.TakesValue, IsShown, IsPart, isBlock]

theorem takes_concat (lists : Form α) (p : Position) : p.Takes (concat lists) ↔ p.TakesValue := by
  cases p <;> simp [Position.Takes, Position.TakesValue, IsShown, IsPart, isBlock]

theorem takes_struct (fields : List (String × Form α)) (p : Position) :
    p.Takes (struct fields) ↔ p ≠ .block ∧ ∀ e ∈ fields, p.inside.Takes e.2 := by
  cases p <;> simp [Position.Takes, Position.inside, IsShown, IsPart, isBlock]

theorem takes_marked (h : t.IsStruct) (p : Position) :
    p.Takes t.marked ↔ (p = .field ∨ p = .block) ∧ Position.fields.Takes t := by
  obtain ⟨fields, rfl⟩ := h
  cases p <;> simp [Position.Takes, marked, IsShown, IsPart, isBlock]

theorem isStruct_of_takes (h : Position.fields.Takes t) : t.IsStruct :=
  ⟨h.choose, h.choose_spec.1⟩

/-- Values are no blocks. -/
theorem isBlock_of_isShown (h : t.IsShown) : t.isBlock = false := by
  cases t with
  | block own fields => simp [IsShown] at h
  | _ => rfl

/-- Items are those of a list that can stand here, if all of them are values, or if all are blocks
and the list is a field. -/
theorem takes_list (items : List (Form α)) (p : Position) :
    AreItems items ∧ p.Takes (list items) ↔
      p.TakesValue ∧ (∀ t ∈ items, Position.value.Takes t) ∨
        p = .field ∧ items ≠ [] ∧ ∀ t ∈ items, Position.block.Takes t := by
  have hvalues (h : ∀ t ∈ items, t.IsShown) : AreItems items :=
    .inl fun t ht => ⟨isBlock_of_isShown (h t ht), h t ht⟩
  cases p with
  | value =>
    simp only [Position.Takes, IsShown, Position.TakesValue, true_and, reduceCtorEq, false_and,
      or_false]
    refine ⟨fun h => (areItems_of_not_any h.2).1 h.1, fun h => ⟨hvalues h, ?_⟩⟩
    exact List.any_eq_false.2 fun t ht => by simp [isBlock_of_isShown (h t ht)]
  | field =>
    simp only [Position.Takes, IsPart, Position.TakesValue, or_true, true_and]
    constructor
    · rintro ⟨hvalues | ⟨hne, hblocks⟩, hparts⟩
      · exact .inl fun t ht => (hvalues t ht).2
      · exact .inr ⟨hne, fun t ht => ⟨hblocks t ht, hparts t ht (hblocks t ht)⟩⟩
    · rintro (h | ⟨hne, hblocks⟩)
      · refine ⟨hvalues h, fun t ht hblock => absurd hblock ?_⟩
        simp [isBlock_of_isShown (h t ht)]
      · exact ⟨.inr ⟨hne, fun t ht => (hblocks t ht).1⟩, fun t ht _ => (hblocks t ht).2⟩
  | block | fields => simp [Position.Takes, Position.TakesValue, isBlock]

end Form

namespace Argument

/-- An argument fits a place just if it can be encoded and its form can stand there. -/
theorem fits_iff (a : Argument) (p : Position) : a.Fits p ↔ a.Encodable ∧ p.Takes a.form := by
  induction a using of_children generalizing p with | _ a ih
  cases a with
  | wrapped a =>
    rw [Fits, Encodable, form]
    exact ih a (List.mem_singleton_self _) p
  | variant own a =>
    rw [Fits, Encodable, form, Form.takes_named]
    exact ih a (List.mem_singleton_self _) p
  | list items =>
    have hne : items.map form ≠ [] ↔ items ≠ [] := not_congr List.map_eq_nil_iff
    rw [Fits, Encodable, form, and_assoc, Form.takes_list, List.forall_mem_map,
      List.forall_mem_map, hne]
    have hitems (p : Position) : (∀ a ∈ items, a.Fits p) ↔
        (∀ a ∈ items, a.Encodable) ∧ ∀ a ∈ items, p.Takes a.form := by
      rw [← forall₂_and]
      exact forall₂_congr fun a ha => ih a ha p
    simp only [hitems]
    tauto
  | record fields =>
    rw [Fits, Encodable, form, Form.takes_struct, List.forall_mem_map, and_left_comm,
      ← forall₂_and]
    exact and_congr_right fun _ => forall₂_congr fun e he => ih e.2 (snd_mem_children he) _
  | map entries =>
    rw [Fits, Encodable, form, Form.takes_struct, List.forall_mem_map, and_left_comm,
      ← forall₂_and]
    refine and_congr_right fun _ => forall₂_congr fun e he => ?_
    rw [ih e.1 (key_mem_children he), ih e.2 (value_mem_children he)]
    simp only [Position.Takes, and_assoc]
  | block a =>
    rw [Fits, Encodable, form, ih a (List.mem_singleton_self _)]
    constructor
    · rintro ⟨hp, hok, htakes⟩
      have hstruct := Form.isStruct_of_takes htakes
      exact ⟨⟨hok, hstruct⟩, (Form.takes_marked hstruct p).2 ⟨hp, htakes⟩⟩
    · rintro ⟨⟨hok, hstruct⟩, htakes⟩
      obtain ⟨hp, htakes⟩ := (Form.takes_marked hstruct p).1 htakes
      exact ⟨hp, hok, htakes⟩
  | special category a =>
    rw [Fits, Encodable, form, Form.takes_hole, ih a (List.mem_singleton_self _), and_comm]
    simp only [Position.Takes, and_assoc]
  | concat a =>
    rw [Fits, Encodable, form, Form.takes_concat, ih a (List.mem_singleton_self _), and_comm]
    simp only [Position.Takes, and_assoc]
  | float x => rw [Fits, Encodable, form, Form.takes_given, and_comm]
  | absent => simp [Fits, Encodable, form, Form.takes_nothing]
  | keyless a | unsupported form | failing message => simp [Fits, Encodable]
  | _ => simp [Fits, Encodable, form, Form.takes_given]

/-! ## Whole blocks -/

theorem isAbsent_iff (a : Argument) : a.IsAbsent ↔ a.Encodable ∧ a.form.isNothing = true := by
  induction a using of_children with | _ a ih
  cases a with
  | wrapped a =>
    rw [IsAbsent, Encodable, form]
    exact ih a (List.mem_singleton_self _)
  | variant own a =>
    rw [IsAbsent, Encodable, form, Form.isNothing_named]
    exact ih a (List.mem_singleton_self _)
  | block a =>
    rw [Encodable, form]
    refine ⟨fun h => absurd h (by simp [IsAbsent]), ?_⟩
    rintro ⟨⟨-, fields, hfields⟩, hnothing⟩
    rw [hfields] at hnothing
    exact absurd hnothing (by simp [Form.marked, Form.isNothing])
  | _ => simp [IsAbsent, Encodable, form, Form.isNothing]

/-- An argument is that of a whole block just if it can be encoded and its form can be one. -/
theorem isPlaced_iff (a : Argument) : a.IsPlaced ↔ a.Encodable ∧ a.form.IsBody := by
  rw [IsPlaced, isAbsent_iff, fits_iff, ← and_or_left]
  rfl

end Argument

/-! ## Building -/

theorem noOverride_handsBack : noOverride.HandsBack := fun _ _ => rfl

/-- By default, what is encoded is the form. -/
theorem Argument.encode_noOverride {a : Argument} (hok : a.Encodable) :
    a.encode noOverride () = .ok (a.form.encoded Special.render, ()) := by
  cases h : a.encode noOverride () with
  | error e =>
    exact absurd noOverride_handsBack (error_of_encodable (.inl noOverride_handsBack) hok h).2.1
  | ok r => rw [← eq_encoded_of_ok (.inl noOverride_handsBack) h]

theorem Block.build_eq_ok {hook : Override Unit} {kind : ComponentKind} {label : String}
    {args : Argument} {b : Block} : Block.build hook kind label args = .ok b ↔
      Block.buildWith hook kind label args () = .ok (b, ()) := by
  rw [Block.build]
  cases Block.buildWith hook kind label args () with
  | error e => simp [Except.map]
  | ok r => simp [Except.map, Prod.ext_iff]

/-- A block is built of just those arguments that fit, and it is that of their form. -/
theorem Block.build_noOverride_eq_ok {kind : ComponentKind} {label : String} {args : Argument}
    {b : Block} : Block.build noOverride kind label args = .ok b ↔
      args.IsPlaced ∧ b = args.form.toBlock Special.render kind label := by
  rw [build_eq_ok, Argument.isPlaced_iff]
  constructor
  · intro h
    obtain ⟨e, _, hencoded, -⟩ := Argument.buildWith_eq_ok.1 h
    have hok := Argument.encodable_of_ok noOverride_handsBack hencoded
    obtain ⟨hbody, hb, -⟩ := (Argument.buildWith_of_encoded (Argument.encode_noOverride hok)).1 h
    exact ⟨⟨hok, hbody⟩, hb⟩
  · rintro ⟨⟨hok, hbody⟩, rfl⟩
    exact (Argument.buildWith_of_encoded (Argument.encode_noOverride hok)).2 ⟨hbody, rfl, rfl⟩

namespace Draft

theorem append_block_of_ok {kind : ComponentKind} {label : String} {args : Argument} {b : Block}
    (d : Draft) (h : Block.build noOverride kind label args = .ok b) :
    d ++ block kind label args = ⟨d.blocks ++ [b], d.findings⟩ := by
  have hblock : block kind label args = ⟨[b], []⟩ := by rw [block, blockWith, h]
  rw [hblock]
  exact congrArg (Draft.mk (d.blocks ++ [b])) (List.append_nil d.findings)

theorem append_block_of_error {kind : ComponentKind} {label : String} {args : Argument}
    {e : EncodeError} (d : Draft) (h : Block.build noOverride kind label args = .error e) :
    d ++ block kind label args =
      ⟨d.blocks, d.findings ++ [.error (e.buildMessage kind label)]⟩ := by
  have hblock : block kind label args = ⟨[], [.error (e.buildMessage kind label)]⟩ := by
    rw [block, blockWith, h]
  rw [hblock]
  exact congrArg (Draft.mk · (d.findings ++ [.error (e.buildMessage kind label)]))
    (List.append_nil d.blocks)

/-- A block is built just of an argument that fits: records, maps and absent arguments, with blocks
as fields of blocks and in lists that are such fields. It then is one statement for each field, in
order, but for absent ones and lists of blocks, and is put behind the document. Of another argument
nothing comes but the finding that tells why it has no block. -/
theorem block_exact (kind : ComponentKind) (label : String) (args : Argument) :
    ((∃ b, Block.build noOverride kind label args = .ok b) ↔ args.IsPlaced) ∧
      (args.IsPlaced →
        Block.build noOverride kind label args =
            .ok (args.form.toBlock Special.render kind label) ∧
          ∀ d : Draft, d ++ block kind label args =
            ⟨d.blocks ++ [args.form.toBlock Special.render kind label], d.findings⟩) ∧
      (¬ args.IsPlaced → ∃ e, Block.build noOverride kind label args = .error e ∧
        ∀ d : Draft, d ++ block kind label args =
          ⟨d.blocks, d.findings ++ [.error (e.buildMessage kind label)]⟩) := by
  refine ⟨?_, fun h => ?_, fun h => ?_⟩
  · simp only [Block.build_noOverride_eq_ok, exists_and_left, exists_eq, and_true]
  · have hbuild : Block.build noOverride kind label args =
        .ok (args.form.toBlock Special.render kind label) :=
      Block.build_noOverride_eq_ok.2 ⟨h, rfl⟩
    exact ⟨hbuild, fun d => append_block_of_ok d hbuild⟩
  · cases hbuild : Block.build noOverride kind label args with
    | ok b => exact absurd (Block.build_noOverride_eq_ok.1 hbuild).1 h
    | error e => exact ⟨e, rfl, fun d => append_block_of_error d hbuild⟩

end Draft

end AgentConvert
