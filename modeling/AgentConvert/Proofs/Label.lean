import AgentConvert.Label
import Mathlib.Data.List.Forall2

/-!
# Handing out labels

* `Labels.assign_not_taken`: a label that is handed out was not handed out in its scope before.
* `Labels.taken_assign`: it is then the only one that was not.
* `Labels.isIdentifier_assign`: it is an identifier, whatever the base was.

A free number always exists, because the numbers that are tried outnumber the labels that were
handed out (`Labels.exists_free`). Bases that are distinct need none: they are their own labels
(`Labelling.mapM_fresh_of_nodup`).

Work that hands out labels is known by what it comes to (`Labelling.Yields`), and two pieces of work
by what they come to side by side (`Labelling.Relates`).
-/

namespace AgentConvert

/-! ## Numbers -/

namespace Labels

theorem toString_inj {m n : Nat} (h : toString m = toString n) : m = n := by
  have hdigits : Nat.toDigits 10 m = Nat.toDigits 10 n := by
    rw [← Nat.toList_repr, ← Nat.toList_repr]
    exact congrArg String.toList h
  rw [← Nat.ofDigitChars_ten_toDigits (n := m), hdigits, Nat.ofDigitChars_ten_toDigits]

theorem numbered_inj {base : String} {m n : Nat} (h : numbered base m = numbered base n) :
    m = n := by
  have hlist : base.toList ++ (toString m).toList = base.toList ++ (toString n).toList := by
    rw [← String.toList_append, ← String.toList_append]
    exact congrArg String.toList h
  exact toString_inj (String.toList_inj.1 (List.append_cancel_left hlist))

/-- Among more numbers than labels were handed out one is free. -/
theorem exists_free (ls : Labels) (scope base : String) (n : Nat) :
    ∃ k ∈ (List.range (ls.taken.length + 1)).map (n + ·),
      (!ls.isTaken scope (numbered base k)) = true := by
  apply Classical.byContradiction
  intro hnone
  let tried := (List.range (ls.taken.length + 1)).map fun i => (scope, numbered base (n + i))
  have hsubset : tried ⊆ ls.taken := by
    intro e he
    obtain ⟨i, hi, rfl⟩ := List.mem_map.1 he
    apply Classical.byContradiction
    intro hfree
    refine hnone ⟨n + i, List.mem_map.2 ⟨i, hi, rfl⟩, ?_⟩
    simpa [isTaken] using hfree
  have hnodup : tried.Nodup := by
    refine List.Pairwise.map _ (fun i j hij h => hij ?_) List.nodup_range
    have hn := numbered_inj (congrArg Prod.snd h)
    omega
  have hlength := hnodup.length_le_of_subset hsubset
  simp only [tried, List.length_map, List.length_range] at hlength
  omega

theorem isTaken_freeNumber (ls : Labels) (scope base : String) (n : Nat) :
    ls.isTaken scope (numbered base (ls.freeNumber scope base n)) = false := by
  obtain ⟨k, hk, hfree⟩ := ls.exists_free scope base n
  have hsome : (((List.range (ls.taken.length + 1)).map (n + ·)).find? fun k =>
      !ls.isTaken scope (numbered base k)).isSome = true := List.find?_isSome.2 ⟨k, hk, hfree⟩
  obtain ⟨m, hm⟩ := Option.isSome_iff_exists.1 hsome
  have hfound := List.find?_some hm
  rw [freeNumber, hm, Option.getD_some]
  simpa using hfound

/-! ## Labels -/

/-- A label that is handed out is new in its scope. -/
theorem assign_not_taken (ls : Labels) (scope base : String) :
    (scope, (ls.assign scope base).1) ∉ ls.taken := by
  rw [← List.contains_iff_mem]
  unfold assign
  dsimp only
  split
  · have hfree := ls.isTaken_freeNumber scope (sanitize base) (ls.nextNumber scope (sanitize base))
    simpa [isTaken] using hfree
  · rename_i h
    exact h

theorem isTaken_iff {ls : Labels} {scope label : String} :
    ls.isTaken scope label = true ↔ (scope, label) ∈ ls.taken := List.contains_iff_mem

/-- A base that is free is its own label. -/
theorem assign_of_free {ls : Labels} {scope base : String}
    (h : ls.isTaken scope (sanitize base) = false) :
    ls.assign scope base =
      (sanitize base, { ls with taken := (scope, sanitize base) :: ls.taken }) := by
  rw [assign]
  dsimp only
  rw [if_neg (by simp [h])]

theorem taken_assign (ls : Labels) (scope base : String) :
    (ls.assign scope base).2.taken = (scope, (ls.assign scope base).1) :: ls.taken := by
  unfold assign
  dsimp only
  split <;> rfl

end Labels

/-- A number behind an identifier makes an identifier. -/
theorem isIdentifier_numbered {base : String} (h : isIdentifier base = true) (n : Nat) :
    isIdentifier (Labels.numbered base n) = true := by
  have hdigits : (toString n).toList.all isIdentContinue = true := by
    refine List.all_eq_true.2 fun c hc => ?_
    have hc : c ∈ Nat.toDigits 10 n := by
      rw [← Nat.toList_repr]
      exact hc
    have hdigit := Nat.isDigit_of_mem_toDigits (by decide) (by decide) hc
    simp [isIdentContinue, Char.isAlphanum, hdigit]
  simp only [isIdentifier] at h ⊢
  rw [Labels.numbered, String.toList_append]
  cases hbase : base.toList with
  | nil =>
    rw [hbase] at h
    exact absurd h Bool.false_ne_true
  | cons c cs =>
    rw [hbase] at h
    simp only [isIdentifierChars, Bool.and_eq_true] at h
    rw [List.cons_append, isIdentifierChars, List.all_append, h.1, h.2, hdigits]
    rfl

theorem ne_of_isIdentifier {s : String} (h : isIdentifier s = true) : s ≠ "" := by
  rintro rfl
  exact absurd h (by decide)

namespace Labels

theorem isIdentifier_assign (ls : Labels) (scope base : String) :
    isIdentifier (ls.assign scope base).1 = true := by
  have hbase := isIdentifier_sanitize base
  unfold assign
  dsimp only
  split
  · exact isIdentifier_numbered hbase _
  · exact hbase

/-- Whether the labels of `ls'` are those of `ls` and, besides, those of `new`, which are distinct
and were not handed out before. -/
structure Extends (ls : Labels) (new : List (String × String)) (ls' : Labels) : Prop where
  nodup : new.Nodup
  fresh : ∀ e ∈ new, e ∉ ls.taken
  taken : ∀ e, e ∈ ls'.taken ↔ e ∈ new ∨ e ∈ ls.taken

namespace Extends

variable {ls ls' ls'' : Labels} {new new' : List (String × String)}

theorem refl (ls : Labels) : ls.Extends [] ls :=
  ⟨List.nodup_nil, by simp, by simp⟩

theorem trans (h : ls.Extends new ls') (h' : ls'.Extends new' ls'') :
    ls.Extends (new ++ new') ls'' := by
  refine ⟨List.nodup_append.2 ⟨h.nodup, h'.nodup, ?_⟩, fun e he => ?_, fun e => ?_⟩
  · rintro e he e' he' rfl
    exact h'.fresh e he' ((h.taken e).2 (.inl he))
  · rcases List.mem_append.1 he with he | he
    · exact h.fresh e he
    · exact fun hold => h'.fresh e he ((h.taken e).2 (.inr hold))
  · rw [h'.taken, h.taken, List.mem_append, or_left_comm, or_assoc]

theorem perm (h : ls.Extends new ls') (hperm : new.Perm new') : ls.Extends new' ls' :=
  ⟨hperm.nodup h.nodup, fun e he => h.fresh e (hperm.mem_iff.2 he),
    fun e => by rw [h.taken, hperm.mem_iff]⟩

end Extends

theorem extends_assign (ls : Labels) (scope base : String) :
    ls.Extends [(scope, (ls.assign scope base).1)] (ls.assign scope base).2 := by
  refine ⟨by simp, fun e he => ?_, fun e => ?_⟩
  · rw [List.mem_singleton.1 he]
    exact ls.assign_not_taken scope base
  · rw [taken_assign, List.mem_cons, List.mem_singleton]

end Labels

/-! ## Work that hands out labels -/

namespace Labelling

variable {α β : Type}

@[simp] theorem pure_apply (a : α) (ls : Labels) : (pure a : Labelling α) ls = (a, ls) := rfl

@[simp] theorem bind_apply (w : Labelling α) (f : α → Labelling β) (ls : Labels) :
    (w >>= f) ls = f (w ls).1 (w ls).2 := rfl

@[simp] theorem map_apply (f : α → β) (w : Labelling α) (ls : Labels) :
    (f <$> w) ls = (f (w ls).1, (w ls).2) := rfl

@[simp] theorem fresh_apply (scope base : String) (ls : Labels) :
    fresh scope base ls = ls.assign scope base := rfl

@[simp] theorem mapM_nil (f : α → Labelling β) (ls : Labels) :
    ([] : List α).mapM f ls = ([], ls) := by
  rw [List.mapM_nil]
  rfl

@[simp] theorem mapM_cons (f : α → Labelling β) (a : α) (as : List α) (ls : Labels) :
    (a :: as).mapM f ls =
      ((f a ls).1 :: (as.mapM f (f a ls).2).1, (as.mapM f (f a ls).2).2) := by
  rw [List.mapM_cons]
  rfl

/-- What work comes to, whatever labels were handed out before. -/
def Yields (w : Labelling α) (P : α → Prop) : Prop := ∀ ls, P (w ls).1

theorem yields_pure {a : α} {P : α → Prop} (h : P a) : Yields (pure a) P := fun _ => h

theorem yields_bind {w : Labelling α} {f : α → Labelling β} {P : α → Prop} {Q : β → Prop}
    (hw : w.Yields P) (hf : ∀ a, P a → (f a).Yields Q) : Yields (w >>= f) Q :=
  fun ls => hf _ (hw ls) _

theorem yields_mapM {f : α → Labelling β} {P : β → Prop} {as : List α}
    (h : ∀ a ∈ as, (f a).Yields P) : (as.mapM f).Yields fun bs => ∀ b ∈ bs, P b := by
  intro ls
  induction as generalizing ls with
  | nil => simp
  | cons a as ih =>
    rw [mapM_cons]
    intro b hb
    rcases List.mem_cons.1 hb with rfl | hb
    · exact h a (List.mem_cons_self ..) ls
    · exact ih (fun a ha => h a (List.mem_cons_of_mem _ ha)) _ b hb

theorem yields_forall₂_mapM {f : α → Labelling β} {P : α → β → Prop} {as : List α}
    (h : ∀ a ∈ as, (f a).Yields (P a)) : (as.mapM f).Yields (List.Forall₂ P as) := by
  intro ls
  induction as generalizing ls with
  | nil => exact .nil
  | cons a as ih =>
    rw [mapM_cons]
    exact .cons (h a (List.mem_cons_self ..) ls)
      (ih (fun b hb => h b (List.mem_cons_of_mem _ hb)) _)

theorem length_mapM (f : α → Labelling β) (as : List α) (ls : Labels) :
    (as.mapM f ls).1.length = as.length := by
  induction as generalizing ls with
  | nil => simp
  | cons a as ih => simp [ih]

/-- Labels handed out one by one are all that is handed out, the last one first. -/
theorem taken_mapM_fresh (scope base : α → String) (as : List α) (ls : Labels) :
    let r := as.mapM (fun a => fresh (scope a) (base a)) ls
    r.2.taken = ((as.zip r.1).map fun e => (scope e.1, e.2)).reverse ++ ls.taken := by
  induction as generalizing ls with
  | nil => simp
  | cons a as ih => simp [ih, Labels.taken_assign]

/-- Labels handed out one by one are new and distinct. -/
theorem extends_mapM_fresh (scope base : α → String) (as : List α) (ls : Labels) :
    let r := as.mapM (fun a => fresh (scope a) (base a)) ls
    ls.Extends ((as.zip r.1).map fun e => (scope e.1, e.2)) r.2 := by
  induction as generalizing ls with
  | nil => simpa using Labels.Extends.refl ls
  | cons a as ih => simpa using (ls.extends_assign (scope a) (base a)).trans (ih _)

/-- Bases that are distinct in their scopes, and free to begin with, are their own labels. -/
theorem mapM_fresh_of_nodup (scope base : α → String) {as : List α} {ls : Labels}
    (hnodup : (as.map fun a => (scope a, sanitize (base a))).Nodup)
    (hfree : ∀ a ∈ as, (scope a, sanitize (base a)) ∉ ls.taken) :
    (as.mapM (fun a => fresh (scope a) (base a)) ls).1 = as.map fun a => sanitize (base a) := by
  induction as generalizing ls with
  | nil => rw [mapM_nil, List.map_nil]
  | cons a as ih =>
    have hhead : ls.isTaken (scope a) (sanitize (base a)) = false := by
      rw [Bool.eq_false_iff, Ne, Labels.isTaken_iff]
      exact hfree a (List.mem_cons_self ..)
    rw [List.map_cons, List.nodup_cons] at hnodup
    rw [mapM_cons, fresh_apply, Labels.assign_of_free hhead, List.map_cons]
    refine congrArg (_ :: ·) (ih hnodup.2 fun b hb htaken => ?_)
    rcases List.mem_cons.1 htaken with hsame | hold
    · exact hnodup.1 (hsame ▸ List.mem_map_of_mem hb)
    · exact hfree b (List.mem_cons_of_mem _ hb) hold

theorem yields_fresh (scope base : String) :
    (fresh scope base).Yields fun label => isIdentifier label = true :=
  fun ls => ls.isIdentifier_assign scope base

/-! ## Two pieces of work -/

variable {γ δ : Type} {r : α → β → Prop} {q : γ → δ → Prop}

/-- Whether two pieces of work come to related results and hand out the same labels, whatever
labels were handed out before. -/
def Relates (r : α → β → Prop) (v : Labelling α) (w : Labelling β) : Prop :=
  ∀ ls, r (v ls).1 (w ls).1 ∧ (v ls).2 = (w ls).2

theorem relates_refl (w : Labelling α) : Relates Eq w w := fun _ => ⟨rfl, rfl⟩

theorem relates_pure {a : α} {b : β} (h : r a b) : Relates r (pure a) (pure b) :=
  fun _ => ⟨h, rfl⟩

theorem relates_bind {v : Labelling α} {w : Labelling β} {f : α → Labelling γ}
    {g : β → Labelling δ} (hv : Relates r v w) (hf : ∀ a b, r a b → Relates q (f a) (g b)) :
    Relates q (v >>= f) (w >>= g) := by
  intro ls
  obtain ⟨hr, hls⟩ := hv ls
  rw [bind_apply, bind_apply, ← hls]
  exact hf _ _ hr _

theorem relates_mapM {f : γ → Labelling α} {g : δ → Labelling β} {cs : List γ} {ds : List δ}
    (h : List.Forall₂ (fun c d => Relates r (f c) (g d)) cs ds) :
    Relates (List.Forall₂ r) (cs.mapM f) (ds.mapM g) := by
  induction h with
  | nil => exact fun ls => ⟨.nil, rfl⟩
  | @cons c d cs ds hcd _ ih =>
    intro ls
    obtain ⟨hr, hls⟩ := hcd ls
    obtain ⟨hrs, hls'⟩ := ih (f c ls).2
    rw [mapM_cons, mapM_cons, ← hls]
    exact ⟨.cons hr hrs, hls'⟩

end Labelling

end AgentConvert
