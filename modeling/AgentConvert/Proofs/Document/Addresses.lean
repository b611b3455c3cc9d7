import AgentConvert.Document.References

/-!
# Addresses of expressions

An address leads to an expression in a document: through the statements to the value of an
attribute, and through the items of arrays, the values of objects and the arguments of calls on to
one of its parts (`Body.at?`). The list of the expressions in a document goes through the addresses
in lexicographic order, so every expression comes before its own parts and before all that follows
it (`Body.exists_index`).
-/

namespace AgentConvert

/-- The way to an expression: which statement, and which part from then on. -/
abbrev Address := List Nat

namespace Expr

/-- The parts of an expression: the items of an array, the values of an object, the arguments of a
call. -/
def children : Expr → List Expr
  | .array items => items
  | .object fields => fields.map Prod.snd
  | .call _ args => args
  | _ => []

/-- The expression at an address in another. -/
def at? : Address → Expr → Option Expr
  | [], e => some e
  | i :: rest, e => e.children[i]?.bind (at? rest)

end Expr

/-- The expression at an address in the statements of a document or of a block. -/
def Body.at? : Address → Body → Option Expr
  | [], _ => none
  | i :: rest, body => body[i]?.bind fun
    | .attribute _ value => value.at? rest
    | .block _ _ nested => Body.at? rest nested

/-! ## Indexes -/

/-- Whether a list has all that stands at an address, in the order of the addresses. -/
structure Indexes {α : Type} (index : List (Address × α)) (at? : Address → Option α) : Prop where
  sorted : index.Pairwise fun a b => a.1 < b.1
  mem : ∀ address x, (address, x) ∈ index ↔ at? address = some x

/-- What stands in parts that are numbered from `n` on is indexed part by part. -/
theorem exists_index_parts {α β : Type} {list : β → List α} {at? : Address → β → Option α}
    {parts : List β}
    (h : ∀ p ∈ parts, ∃ index : List (Address × α),
      index.map Prod.snd = list p ∧ Indexes index (at? · p)) (n : Nat) :
    ∃ index : List (Address × α),
      index.map Prod.snd = parts.flatMap list ∧ index.Pairwise (fun a b => a.1 < b.1) ∧
        ∀ address x, (address, x) ∈ index ↔
          ∃ i rest, address = (n + i) :: rest ∧ parts[i]?.bind (at? rest) = some x := by
  induction parts generalizing n with
  | nil => exact ⟨[], rfl, .nil, by simp⟩
  | cons p parts ih =>
    obtain ⟨first, hfirst, hindexes⟩ := h p (List.mem_cons_self ..)
    obtain ⟨others, hothers, hsorted, hmem⟩ :=
      ih (fun q hq => h q (List.mem_cons_of_mem _ hq)) (n + 1)
    refine ⟨first.map (fun e => (n :: e.1, e.2)) ++ others, ?_, ?_, fun address x => ?_⟩
    · rw [List.map_append, List.map_map, hothers, List.flatMap_cons, ← hfirst]
      rfl
    · refine List.pairwise_append.2 ⟨?_, hsorted, ?_⟩
      · exact List.pairwise_map.2 <| hindexes.sorted.imp fun hlt =>
          List.cons_lt_cons_iff.2 (.inr ⟨rfl, hlt⟩)
      · rintro a ha ⟨address, x⟩ hb
        obtain ⟨e, -, rfl⟩ := List.mem_map.1 ha
        obtain ⟨i, rest, rfl, -⟩ := (hmem address x).1 hb
        exact List.cons_lt_cons_iff.2 (.inl (by omega))
    · rw [List.mem_append, hmem, List.mem_map]
      constructor
      · rintro (⟨⟨rest, y⟩, hrest, heq⟩ | ⟨i, rest, rfl, hrest⟩)
        · obtain ⟨rfl, rfl⟩ := Prod.mk.inj heq
          exact ⟨0, rest, rfl, (hindexes.mem rest y).1 hrest⟩
        · exact ⟨i + 1, rest, by rw [Nat.add_right_comm, Nat.add_assoc], hrest⟩
      · rintro ⟨i, rest, rfl, hrest⟩
        cases i with
        | zero => exact .inl ⟨(rest, x), (hindexes.mem rest x).2 hrest, rfl⟩
        | succ i => exact .inr ⟨i, rest, by rw [Nat.add_right_comm, Nat.add_assoc], hrest⟩

namespace Expr

/-! ## Expressions -/

theorem sizeOf_lt_of_mem_children {e c : Expr} (h : c ∈ e.children) : sizeOf c < sizeOf e := by
  cases e with
  | array items =>
    have := List.sizeOf_lt_of_mem (show c ∈ items from h)
    simp only [array.sizeOf_spec]
    omega
  | call callee args =>
    have := List.sizeOf_lt_of_mem (show c ∈ args from h)
    simp only [call.sizeOf_spec]
    omega
  | object fields =>
    obtain ⟨⟨key, value⟩, hfield, rfl⟩ := List.mem_map.1 (show c ∈ fields.map Prod.snd from h)
    have := List.sizeOf_lt_of_mem hfield
    simp only [object.sizeOf_spec, Prod.mk.sizeOf_spec] at this ⊢
    omega
  | null | bool _ | number _ | str _ | path _ => exact absurd h List.not_mem_nil

/-- What an expression has if its parts have it, every expression has. -/
theorem of_children {motive : Expr → Prop} (h : ∀ e, (∀ c ∈ e.children, motive c) → motive e)
    (e : Expr) : motive e :=
  h e fun c _ => of_children h c
termination_by sizeOf e
decreasing_by exact sizeOf_lt_of_mem_children ‹_›

theorem walkItems_eq (items : List Expr) : walkItems items = items.flatMap walk := by
  induction items with
  | nil => rfl
  | cons e items ih => rw [walkItems, ih, List.flatMap_cons]

theorem walkFields_eq (fields : List (String × Expr)) :
    walkFields fields = (fields.map Prod.snd).flatMap walk := by
  induction fields with
  | nil => rfl
  | cons e fields ih => rw [walkFields, ih, List.map_cons, List.flatMap_cons]

theorem walk_eq (e : Expr) : e.walk = e :: e.children.flatMap walk := by
  cases e with
  | array items => rw [walk, walkItems_eq, children]
  | object fields => rw [walk, walkFields_eq, children]
  | call callee args => rw [walk, walkItems_eq, children]
  | null | bool _ | number _ | str _ | path _ => rfl

/-- A walk lists what stands in an expression by address. -/
theorem exists_index (e : Expr) : ∃ index : List (Address × Expr),
    index.map Prod.snd = e.walk ∧ Indexes index (at? · e) := by
  induction e using of_children with | _ e ih
  obtain ⟨parts, hparts, hsorted, hmem⟩ := exists_index_parts ih 0
  refine ⟨([], e) :: parts, by rw [List.map_cons, hparts, walk_eq], ?_, ?_⟩
  · refine List.pairwise_cons.2 ⟨?_, hsorted⟩
    rintro ⟨address, x⟩ hx
    obtain ⟨i, rest, rfl, -⟩ := (hmem address x).1 hx
    exact List.nil_lt_cons _ _
  · intro address x
    rw [List.mem_cons, hmem]
    cases address with
    | nil => simp [at?, eq_comm]
    | cons i rest => simp [at?, and_assoc]

end Expr

/-! ## Bodies -/

/-- The expression at an address in a statement. -/
def Statement.at? (rest : Address) : Statement → Option Expr
  | .attribute _ value => value.at? rest
  | .block _ _ nested => Body.at? rest nested

theorem Body.at?_cons (i : Nat) (rest : Address) (body : Body) :
    Body.at? (i :: rest) body = body[i]?.bind (Statement.at? rest) := by
  rw [Body.at?]
  congr 1

theorem exprsOfBody_eq (body : Body) : exprsOfBody body = body.flatMap Statement.exprs := by
  induction body with
  | nil => rfl
  | cons s body ih => rw [exprsOfBody, ih, List.flatMap_cons]

/-- If the statements of a body have indexes, so has the body. -/
theorem Body.exists_index_of_statements {body : Body}
    (h : ∀ s ∈ body, ∃ index : List (Address × Expr),
      index.map Prod.snd = s.exprs ∧ Indexes index (Statement.at? · s)) :
    ∃ index : List (Address × Expr),
      index.map Prod.snd = exprsOfBody body ∧ Indexes index (Body.at? · body) := by
  obtain ⟨index, hindex, hsorted, hmem⟩ := exists_index_parts h 0
  refine ⟨index, by rw [hindex, exprsOfBody_eq], hsorted, fun address x => ?_⟩
  rw [hmem]
  cases address with
  | nil => simp [Body.at?]
  | cons i rest => simp [Body.at?_cons, and_assoc]

mutual
theorem Statement.exists_index : ∀ s : Statement, ∃ index : List (Address × Expr),
    index.map Prod.snd = s.exprs ∧ Indexes index (Statement.at? · s)
  | .attribute _ value => value.exists_index
  | .block _ _ nested => Body.exists_index_of_statements (Statement.exists_index_of_mem nested)

theorem Statement.exists_index_of_mem : ∀ body : Body, ∀ s ∈ body,
    ∃ index : List (Address × Expr),
      index.map Prod.snd = s.exprs ∧ Indexes index (Statement.at? · s)
  | [] => fun _ hs => absurd hs List.not_mem_nil
  | s :: rest =>
    List.forall_mem_cons.2 ⟨Statement.exists_index s, Statement.exists_index_of_mem rest⟩
end

/-- The list of the expressions in a body has what stands there, in the order of the addresses. -/
theorem Body.exists_index (body : Body) : ∃ index : List (Address × Expr),
    index.map Prod.snd = exprsOfBody body ∧ Indexes index (Body.at? · body) :=
  Body.exists_index_of_statements (Statement.exists_index_of_mem body)

end AgentConvert
