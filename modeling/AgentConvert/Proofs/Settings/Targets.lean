import AgentConvert.Proofs.Argument.Encoding
import AgentConvert.Proofs.Override.Steps
import AgentConvert.Settings.Targets
import Mathlib.Data.List.Forall2

/-!
# Listed targets

A target that a group lists is an object: its address, then the labels of its group in ascending
order of their names (`TargetGroup.IsObjectOf`). An override is offered the targets as they are
(`Argument.encode_listed`), and if it takes none of them, the objects stand in every block that has
them as a field (`Argument.mem_body_of_field`). So all targets of all groups reach the document
(`TargetGroup.listed_intact`).
-/

namespace AgentConvert

/-! ## Objects -/

namespace TargetGroup

/-- Whether an object is the target with this address and these labels. -/
structure IsObjectOf (address : String) (labels : Dictionary String)
    (object : List (String × Expr)) : Prop where
  /-- The address comes first. -/
  first : object.head? = some ("__address__", .str address)
  /-- The names behind it ascend. -/
  ascending : object.tail.Pairwise fun a b => a.1 < b.1
  /-- They are those of the labels, each with its value; a label cannot stand in for the address. -/
  mem_iff : ∀ name value, (name, value) ∈ object.tail ↔
    name ≠ "__address__" ∧ ∃ text, labels.get? name = some text ∧ value = .str text
  /-- No name comes twice. -/
  nodup : (object.map Prod.fst).Nodup

/-- The targets of groups in order, each as its address and the labels of its group. -/
def entries (groups : List TargetGroup) : List (String × Dictionary String) :=
  groups.flatMap fun g => g.targets.map fun address => (address, g.labels)

theorem listed_eq_map (groups : List TargetGroup) :
    listed groups = (entries groups).map fun e => target e.1 e.2 := by
  rw [listed, entries, List.map_flatMap]
  simp only [List.map_map, Function.comp_def]

theorem mem_labels_iff {labels : Dictionary String} {name text : String} :
    (name, text) ∈ labels.entries.filter (·.1 ≠ addressLabel) ↔
      name ≠ addressLabel ∧ labels.get? name = some text := by
  rw [List.mem_filter, Dictionary.mem_entries_iff, decide_eq_true_eq, and_comm]

theorem isObjectOf_target (address : String) (labels : Dictionary String) :
    IsObjectOf address labels ((target address labels).map fun l => (l.1, .str l.2)) := by
  have hascending : (labels.entries.filter (·.1 ≠ addressLabel)).Pairwise fun a b => a.1 < b.1 :=
    labels.ascending.filter _
  refine ⟨rfl, List.pairwise_map.2 hascending, fun name value => ?_, ?_⟩
  · rw [target, List.map_cons, List.tail_cons, List.mem_map]
    constructor
    · rintro ⟨⟨key, text⟩, hmem, heq⟩
      obtain ⟨rfl, rfl⟩ := Prod.mk.inj heq
      obtain ⟨hname, htext⟩ := mem_labels_iff.1 hmem
      exact ⟨hname, text, htext, rfl⟩
    · rintro ⟨hname, text, htext, rfl⟩
      exact ⟨(name, text), mem_labels_iff.2 ⟨hname, htext⟩, rfl⟩
  · have hlabels : ((labels.entries.filter (·.1 ≠ addressLabel)).map Prod.fst).Nodup :=
      (List.pairwise_map.2 hascending).imp String.ne_of_lt
    have haddress : addressLabel ∉ (labels.entries.filter (·.1 ≠ addressLabel)).map Prod.fst := by
      simp
    simpa [target, Function.comp_def] using List.nodup_cons.2 ⟨haddress, hlabels⟩

theorem forall₂_isObjectOf (groups : List TargetGroup) :
    List.Forall₂ (fun e object => IsObjectOf e.1 e.2 object) (entries groups)
      ((listed groups).map fun t => t.map fun l => (l.1, .str l.2)) := by
  rw [listed_eq_map, List.map_map, List.forall₂_map_right_iff, List.forall₂_same]
  exact fun e _ => isObjectOf_target e.1 e.2

end TargetGroup

/-! ## Encodings -/

namespace Argument

variable {σ : Type} {hook : Override σ} {s s' : σ} {a : Argument} {x : Expr} {name : String}

/-- The targets that were encoded are read back. -/
theorem targets_render (ts : List Target) :
    (Encoded.expr (Special.render (.targets ts))).targets = .ok ts := by
  have htargets := (Form.targets_encoded (f := id) (.given (Special.render (.targets ts))) ts).2
    ⟨by simp [Form.IsShown], by simp [Form.expr, Special.render]⟩
  rw [Form.encoded, Form.expr] at htargets
  · exact htargets
  all_goals simp

/-- An override is offered the targets as they are. -/
theorem encode_listed (hook : Override σ) (ts : List Target) (s : σ) :
    (targets ts).encode hook s = consult hook (.targets ts) s := by
  have hok : (targets ts).encode hook s =
      .ok (.expr (hook (.targets ts) s).1.render, (hook (.targets ts) s).2) :=
    encode_special_eq_ok.2 ⟨_, s, .targets ts, encode_targets hook ts s,
      Special.special_payload (.targets ts), rfl, rfl⟩
  rw [hok, consult]

theorem mem_of_mapM_encodeField {fields : Fields} {fs : List (String × Encoded)}
    (hmem : (name, a) ∈ fields) (hfs : fields.mapM (encodeField hook) s = .ok (fs, s'))
    (ha : ∀ s e s', a.encode hook s = .ok (e, s') → e = .expr x) : (name, .expr x) ∈ fs := by
  induction fields generalizing s fs with
  | nil => exact absurd hmem List.not_mem_nil
  | cons field fields ih =>
    obtain ⟨f, s₁, rest, hf, hrest, rfl⟩ := run_mapM_cons_eq_ok.1 hfs
    rcases List.mem_cons.1 hmem with rfl | hmem
    · obtain ⟨e, he, rfl⟩ := encodeField_eq_ok.1 hf
      rw [ha s e s₁ he]
      exact List.mem_cons_self
    · exact List.mem_cons_of_mem _ (ih hmem hrest)

theorem mem_body {fs : List (String × Encoded)} {out : Body} (hmem : (name, .expr x) ∈ fs)
    (hout : Encoded.body fs = .ok out) : .attribute name x ∈ out := by
  induction fs generalizing out with
  | nil => exact absurd hmem List.not_mem_nil
  | cons f fs ih =>
    obtain ⟨part, hpart, rest, hrest, rfl⟩ := Encoded.body_cons_eq_ok.1 hout
    rcases List.mem_cons.1 hmem with rfl | hmem
    · rw [Encoded.body_expr, Except.ok.injEq] at hpart
      simp [← hpart]
    · exact List.mem_append_right _ (ih hmem hrest)

/-- A block has an attribute for each field that is encoded as an expression. -/
theorem mem_body_of_field {kind : ComponentKind} {label : String} {fields : Fields} {b : Block}
    (hmem : (name, a) ∈ fields)
    (hb : Block.buildWith hook kind label (.record fields) s = .ok (b, s'))
    (ha : ∀ s e s', a.encode hook s = .ok (e, s') → e = .expr x) :
    .attribute name x ∈ b.body := by
  obtain ⟨e, out, he, hout, rfl⟩ := buildWith_eq_ok.1 hb
  obtain ⟨fs, hfs, rfl⟩ := encode_record_eq_ok.1 he
  exact mem_body (mem_of_mapM_encodeField hmem hfs ha) hout

end Argument

/-! ## Groups -/

namespace TargetGroup

/-- The targets of groups, in their order, are objects with the address first and then all other
labels of the group in ascending order. The targets are encoded as the array of these objects, read
back from it as they were, and rendered as it again. So an override is offered the targets as they
are; where it takes none, they are the array, in every block that has them as a field. -/
theorem listed_intact (groups : List TargetGroup) :
    ∃ objects : List (List (String × Expr)),
      List.Forall₂ (fun e object => IsObjectOf e.1 e.2 object) (entries groups) objects ∧
      let ts := listed groups
      let array : Expr := .array (objects.map .object)
      (∀ {σ : Type} (hook : Override σ) (s : σ),
        (Argument.list (ts.map Argument.target)).encode hook s = .ok (.expr array, s)) ∧
      (Encoded.expr array).targets = .ok ts ∧
      Special.render (.targets ts) = array ∧
      ∀ {σ : Type} (hook : Override σ),
        (∀ s, (Argument.targets ts).encode hook s =
          .ok (.expr (hook (.targets ts) s).1.render, (hook (.targets ts) s).2)) ∧
        ((∀ s, (hook (.targets ts) s).1 = .error (.targets ts)) →
          ∀ kind label fields name s b s', (name, Argument.targets ts) ∈ fields →
            Block.buildWith hook kind label (.record fields) s = .ok (b, s') →
            .attribute name array ∈ b.body) := by
  have harray : Special.render (.targets (listed groups)) =
      .array (((listed groups).map fun t => t.map fun l => (l.1, .str l.2)).map .object) := by
    rw [List.map_map]
    rfl
  refine ⟨_, forall₂_isObjectOf groups, ?_⟩
  dsimp only
  rw [← harray]
  refine ⟨fun hook s => Argument.encode_targets hook _ s,
    Argument.targets_render (listed groups), rfl,
    fun hook => ⟨fun s => Argument.encode_listed hook _ s, ?_⟩⟩
  intro hback kind label fields name s b s' hmem hb
  refine Argument.mem_body_of_field hmem hb fun s e s' he => ?_
  rw [Argument.encode_listed, Argument.consult, hback] at he
  exact (Prod.mk.inj (Except.ok.inj he)).1.symm

/-- A label called like the address is left out, and a group without targets lists none. -/
theorem listed_intact_addressed :
    let groups : List TargetGroup := [
      { targets := ["b:1", "a:2"],
        labels := .ofList [("env", "prod"), ("__address__", "c:3"), ("Zone", "x")] },
      { labels := .ofList [("env", "test")] },
      { targets := ["d:4"] }]
    let objects : List Expr := [
      .object [("__address__", .str "b:1"), ("Zone", .str "x"), ("env", .str "prod")],
      .object [("__address__", .str "a:2"), ("Zone", .str "x"), ("env", .str "prod")],
      .object [("__address__", .str "d:4")]]
    let block : Block :=
      ⟨["discovery", "static"], some "node", [.attribute "targets" (.array objects)]⟩
    (∀ s, (noOverride (.targets (listed groups)) s).1 = .error (.targets (listed groups))) ∧
    Block.buildWith noOverride ⟨["discovery", "static"]⟩ "node"
      (.record [("targets", .targets (listed groups))]) () = .ok (block, ()) ∧
    .attribute "targets" (.array objects) ∈ block.body := by
  intro groups objects block
  have hback : ∀ s, (noOverride (.targets (listed groups)) s).1 =
      .error (.targets (listed groups)) := fun _ => rfl
  have hobjects : Special.render (.targets (listed groups)) = .array objects := by decide +kernel
  have hblock : Block.buildWith noOverride ⟨["discovery", "static"]⟩ "node"
      (.record [("targets", .targets (listed groups))]) () = .ok (block, ()) := by
    have hfields : [("targets", Argument.targets (listed groups))].mapM
        (Argument.encodeField noOverride) () =
          .ok ([("targets", .expr (.array objects))], ()) := by
      refine run_mapM_cons_eq_ok.2 ⟨_, _, [], Argument.encodeField_eq_ok.2 ⟨_, ?_, rfl⟩, rfl, rfl⟩
      rw [Argument.encode_listed, Argument.consult, hback, ← hobjects]
      rfl
    exact Argument.buildWith_eq_ok.2 ⟨.fields [("targets", .expr (.array objects))], block.body,
      Argument.encode_record_eq_ok.2 ⟨_, hfields, rfl⟩, Encoded.body_expr (.array objects), rfl⟩
  obtain ⟨_, -, -, -, hrender, hhook⟩ := listed_intact groups
  have hmem := (hhook noOverride).2 hback _ _ _ "targets" () block () List.mem_cons_self hblock
  rw [← hrender, hobjects] at hmem
  exact ⟨hback, hblock, hmem⟩

end TargetGroup

end AgentConvert
