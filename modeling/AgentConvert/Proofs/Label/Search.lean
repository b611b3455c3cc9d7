import AgentConvert.Proofs.Document.Lexing
import AgentConvert.Proofs.Label
import Mathlib.Data.List.Nodup
import Mathlib.Order.Nat

/-!
# Labels found by search

The plain way to a free label looks at nothing but the labels that its scope has had so far: it is
the base itself if that is free, and otherwise the base with the least number from 2 on that is free
(`firstFree`, `search`). Labels are handed out with less searching, because each base that had to be
numbered remembers the next number to try. It comes to the same (`Labelling.serve_eq_search`): no
number below the remembered one is free (`Labels.Records`). A base is not told when another base
takes one of its numbered forms; that makes fewer numbers free, so what is remembered stays true.
-/

namespace AgentConvert

/-- A request for a label. -/
structure Request where
  scope : String
  base : String
  deriving DecidableEq

/-- Hands out labels for requests, one after the other. -/
def Labelling.serve (requests : List Request) : Labelling (List String) :=
  requests.mapM fun r => fresh r.scope r.base

/-! ## The search -/

/-- An identifier is left as it is. -/
theorem sanitize_of_isIdentifier {s : String} (h : isIdentifier s = true) : sanitize s = s := by
  have hchars : sanitizeChars s.toList = s.toList := by
    unfold isIdentifier at h
    cases hs : s.toList with
    | nil =>
      rw [hs] at h
      exact absurd h (by decide)
    | cons c rest =>
      rw [hs] at h
      obtain ⟨hstart, hrest⟩ := (Bool.and_eq_true_iff).1 h
      have hdigit : c.isDigit = false := isDigit_of_isIdentStart hstart
      have hkept : ∀ d ∈ c :: rest, (if isIdentContinue d then d else '_') = d := by
        intro d hd
        refine if_pos ?_
        rcases List.mem_cons.1 hd with rfl | hd
        · exact isIdentContinue_of_isIdentStart hstart
        · exact List.all_eq_true.1 hrest d hd
      have hmap : (c :: rest).map (fun d => if isIdentContinue d then d else '_') = c :: rest :=
        (List.map_congr_left hkept).trans (List.map_id _)
      rw [sanitizeChars, hmap]
      simp [hdigit]
  rw [sanitize, hchars, String.ofList_toList]

open Labels (numbered)

/-- Finitely many labels leave some number free. -/
theorem exists_unused (used : List String) (base : String) :
    ∃ n, 2 ≤ n ∧ numbered base n ∉ used := by
  let ls : Labels := ⟨used.map ("", ·), []⟩
  obtain ⟨n, hn, hfree⟩ := ls.exists_free "" base 2
  obtain ⟨i, -, rfl⟩ := List.mem_map.1 hn
  refine ⟨2 + i, by omega, fun hused => ?_⟩
  have htaken : ls.isTaken "" (numbered base (2 + i)) = true :=
    List.contains_iff_mem.2 (List.mem_map_of_mem hused)
  rw [htaken] at hfree
  exact absurd hfree (by decide)

/-- The base if it is not in use, and otherwise the base with the least number from 2 on that makes
a label not in use. -/
def firstFree (used : List String) (base : String) : String :=
  if base ∈ used then numbered base (Nat.find (exists_unused used base)) else base

/-- Of requests and the labels handed out for them, the labels in a scope. -/
def labelsIn (scope : String) (served : List (Request × String)) : List String :=
  (served.filter (·.1.scope = scope)).map Prod.snd

/-- The labels for requests, each the first free one after those that were served earlier. -/
def search (earlier : List (Request × String)) : List Request → List String
  | [] => []
  | r :: rest =>
    let label := firstFree (labelsIn r.scope earlier) (sanitize r.base)
    label :: search (earlier ++ [(r, label)]) rest

theorem mem_labelsIn {scope label : String} {served : List (Request × String)} :
    label ∈ labelsIn scope served ↔ ∃ e ∈ served, e.1.scope = scope ∧ e.2 = label := by
  simp [labelsIn, and_assoc]

theorem labelsIn_append (scope : String) (as bs : List (Request × String)) :
    labelsIn scope (as ++ bs) = labelsIn scope as ++ labelsIn scope bs := by
  simp [labelsIn]

theorem labelsIn_cons (scope : String) (e : Request × String) (es : List (Request × String)) :
    labelsIn scope (e :: es) =
      if e.1.scope = scope then e.2 :: labelsIn scope es else labelsIn scope es := by
  by_cases h : e.1.scope = scope <;> simp [labelsIn, h]

/-- A label is the base, or the base with a number from 2 on. -/
theorem firstFree_eq (used : List String) (base : String) : firstFree used base = base ∨
    ∃ n, 2 ≤ n ∧ firstFree used base = numbered base n := by
  unfold firstFree
  split
  · exact .inr ⟨_, (Nat.find_spec (exists_unused used base)).1, rfl⟩
  · exact .inl rfl

theorem exists_firstFree {earlier : List (Request × String)} {requests : List Request}
    {e : Request × String} (h : e ∈ requests.zip (search earlier requests)) :
    ∃ used, e.2 = firstFree used (sanitize e.1.base) := by
  induction requests generalizing earlier with
  | nil => exact absurd h (by simp [search])
  | cons r rest ih =>
    rw [search, List.zip_cons_cons] at h
    rcases List.mem_cons.1 h with rfl | h
    · exact ⟨_, rfl⟩
    · exact ih h

/-- A search in one scope passes over the requests in other scopes. -/
theorem search_filter (scope : String) (requests : List Request)
    {earlier own : List (Request × String)} (h : labelsIn scope own = labelsIn scope earlier) :
    search own (requests.filter (·.scope = scope)) =
      labelsIn scope (requests.zip (search earlier requests)) := by
  induction requests generalizing earlier own with
  | nil => rfl
  | cons r rest ih =>
    rw [search, List.zip_cons_cons, labelsIn_cons, List.filter_cons]
    dsimp only
    by_cases hr : r.scope = scope
    · simp only [hr, decide_true, if_true, search, h]
      refine congrArg (_ :: ·) (ih ?_)
      rw [labelsIn_append, labelsIn_append, h]
    · simp only [hr, decide_false, if_false, Bool.false_eq_true]
      refine ih ?_
      rw [labelsIn_append, labelsIn_cons, if_neg hr, h]
      exact (List.append_nil _).symm

/-! ## What is remembered -/

namespace Labels

variable {ls : Labels} {earlier : List (Request × String)}

theorem isTaken_assign (ls : Labels) (scope base scope' label : String) :
    (ls.assign scope base).2.isTaken scope' label = true ↔
      ls.isTaken scope' label = true ∨ scope = scope' ∧ (ls.assign scope base).1 = label := by
  rw [isTaken_iff, isTaken_iff, taken_assign, List.mem_cons, Prod.mk.injEq, or_comm,
    eq_comm (a := scope'), eq_comm (a := label)]

/-- The numbers that were tried before the free one are taken. -/
theorem freeNumber_least (ls : Labels) (scope base : String) (n : Nat) :
    n ≤ ls.freeNumber scope base n ∧
      ∀ k, n ≤ k → k < ls.freeNumber scope base n → ls.isTaken scope (numbered base k) = true := by
  unfold freeNumber
  rw [List.find?_map]
  cases hfind : (List.range (ls.taken.length + 1)).find?
      ((fun k => !ls.isTaken scope (numbered base k)) ∘ (n + ·)) with
  | none => exact ⟨le_rfl, fun k hn hk => absurd hk (by simpa using hn)⟩
  | some i =>
    obtain ⟨-, -, hbefore⟩ := List.find?_range_eq_some.1 hfind
    refine ⟨Nat.le_add_right n i, fun k hn hk => ?_⟩
    have htried := hbefore (k - n) (by have : k < n + i := hk; omega)
    simpa [Nat.add_sub_cancel' hn] using htried

theorem assign_of_taken {scope base : String} (h : ls.isTaken scope (sanitize base) = true) :
    let n := ls.freeNumber scope (sanitize base) (ls.nextNumber scope (sanitize base))
    (ls.assign scope base).1 = numbered (sanitize base) n ∧
      ∀ scope' base', (ls.assign scope base).2.nextNumber scope' base' =
        if scope = scope' ∧ sanitize base = base' then n + 1 else ls.nextNumber scope' base' := by
  rw [assign]
  dsimp only
  rw [if_pos h]
  refine ⟨rfl, fun scope' base' => ?_⟩
  unfold nextNumber
  dsimp only
  by_cases hsame : scope = scope' ∧ sanitize base = base'
  · rw [if_pos hsame, List.find?_cons_of_pos (by simp [hsame])]
    rfl
  · rw [if_neg hsame, List.find?_cons_of_neg (by simpa using hsame), List.find?_filter]
    refine congrArg (fun o => (Option.map Prod.snd o).getD 2) ?_
    refine congrArg (fun p => ls.next.find? p) (funext fun e => ?_)
    by_cases he : e.1 = (scope', base')
    · have hkept : (scope', base') ≠ (scope, sanitize base) := fun heq =>
        hsame ⟨(Prod.mk.inj heq).1.symm, (Prod.mk.inj heq).2.symm⟩
      simp [he, hkept]
    · simp [he]

/-- Whether `ls` knows what was served earlier: the labels of each scope, and for each base a number
below which none is free. -/
structure Records (ls : Labels) (earlier : List (Request × String)) : Prop where
  taken : ∀ scope label, ls.isTaken scope label = true ↔ label ∈ labelsIn scope earlier
  two_le : ∀ scope base, 2 ≤ ls.nextNumber scope base
  below : ∀ scope base n, 2 ≤ n → n < ls.nextNumber scope base →
    ls.isTaken scope (numbered base n) = true

theorem records_empty : empty.Records [] :=
  ⟨fun _ _ => by simp [isTaken, empty, labelsIn], fun _ _ => le_rfl,
    fun _ _ _ h h' => absurd h' (Nat.not_lt.2 h)⟩

/-- The label that is handed out is the first free one. -/
theorem Records.assign_eq (h : ls.Records earlier) (r : Request) :
    (ls.assign r.scope r.base).1 = firstFree (labelsIn r.scope earlier) (sanitize r.base) := by
  unfold firstFree
  cases hbase : ls.isTaken r.scope (sanitize r.base) with
  | false =>
    have hfree : sanitize r.base ∉ labelsIn r.scope earlier := by
      rw [← h.taken, hbase]
      exact Bool.false_ne_true
    rw [if_neg hfree, assign_of_free hbase]
  | true =>
    have hused := (h.taken r.scope (sanitize r.base)).1 hbase
    obtain ⟨hnext, htried⟩ := ls.freeNumber_least r.scope (sanitize r.base)
      (ls.nextNumber r.scope (sanitize r.base))
    have hfree := ls.isTaken_freeNumber r.scope (sanitize r.base)
      (ls.nextNumber r.scope (sanitize r.base))
    rw [if_pos hused, (assign_of_taken hbase).1]
    refine congrArg (numbered (sanitize r.base)) (Eq.symm ?_)
    rw [Nat.find_eq_iff]
    refine ⟨⟨(h.two_le _ _).trans hnext, ?_⟩, ?_⟩
    · rw [← h.taken, hfree]
      exact Bool.false_ne_true
    · rintro n hn ⟨htwo, hunused⟩
      rw [← h.taken] at hunused
      -- below the remembered number nothing is free, and from there on all was tried
      rcases Nat.lt_or_ge n (ls.nextNumber r.scope (sanitize r.base)) with hlt | hge
      · exact hunused (h.below _ _ n htwo hlt)
      · exact hunused (htried n hge hn)

/-- What is remembered stays true when a label is handed out. -/
theorem Records.assign (h : ls.Records earlier) (r : Request) :
    (ls.assign r.scope r.base).2.Records (earlier ++ [(r, (ls.assign r.scope r.base).1)]) := by
  have hmono : ∀ scope label, ls.isTaken scope label = true →
      (ls.assign r.scope r.base).2.isTaken scope label = true := fun scope label hold =>
    (isTaken_assign ls r.scope r.base scope label).2 (.inl hold)
  have htaken : ∀ scope label, (ls.assign r.scope r.base).2.isTaken scope label = true ↔
      label ∈ labelsIn scope (earlier ++ [(r, (ls.assign r.scope r.base).1)]) := by
    intro scope label
    rw [isTaken_assign, h.taken, labelsIn_append, List.mem_append]
    exact or_congr_right (by simp [mem_labelsIn])
  cases hbase : ls.isTaken r.scope (sanitize r.base) with
  | false =>
    have hnext : (ls.assign r.scope r.base).2.next = ls.next := by
      rw [assign_of_free hbase]
    have hnumber : ∀ scope base,
        (ls.assign r.scope r.base).2.nextNumber scope base = ls.nextNumber scope base := by
      intro scope base
      rw [nextNumber, hnext, nextNumber]
    refine ⟨htaken, fun scope base => ?_, fun scope base n htwo hn => ?_⟩
    · rw [hnumber]
      exact h.two_le scope base
    · rw [hnumber] at hn
      exact hmono _ _ (h.below scope base n htwo hn)
  | true =>
    obtain ⟨hlabel, hnext⟩ := assign_of_taken hbase
    have hleast := ls.freeNumber_least r.scope (sanitize r.base)
      (ls.nextNumber r.scope (sanitize r.base))
    refine ⟨htaken, fun scope base => ?_, fun scope base n htwo hn => ?_⟩
    · rw [hnext]
      split
      · exact ((h.two_le _ _).trans hleast.1).trans (Nat.le_succ _)
      · exact h.two_le scope base
    · rw [hnext] at hn
      split at hn
      · rename_i hsame
        obtain ⟨rfl, rfl⟩ := hsame
        rcases Nat.lt_succ_iff_lt_or_eq.1 hn with hlt | rfl
        · refine hmono _ _ ?_
          rcases Nat.lt_or_ge n (ls.nextNumber r.scope (sanitize r.base)) with hlt' | hge
          · exact h.below _ _ n htwo hlt'
          · exact hleast.2 n hge hlt
        · exact (isTaken_assign ..).2 (.inr ⟨rfl, hlabel⟩)
      · exact hmono _ _ (h.below scope base n htwo hn)

end Labels

/-! ## Requests one after the other -/

namespace Labelling

theorem serve_eq_search {ls : Labels} {earlier : List (Request × String)}
    (h : ls.Records earlier) (requests : List Request) :
    (serve requests ls).1 = search earlier requests ∧
      (serve requests ls).2.Records (earlier ++ requests.zip (search earlier requests)) := by
  induction requests generalizing ls earlier with
  | nil => exact ⟨by simp [serve, search], by simpa [serve, search] using h⟩
  | cons r rest ih =>
    have hstep := h.assign r
    rw [h.assign_eq r] at hstep
    obtain ⟨hlabels, hrecords⟩ := ih hstep
    have hserve : serve (r :: rest) ls =
        ((ls.assign r.scope r.base).1 :: (serve rest (ls.assign r.scope r.base).2).1,
          (serve rest (ls.assign r.scope r.base).2).2) := mapM_cons _ _ _ _
    rw [hserve, search, List.zip_cons_cons]
    refine ⟨List.cons_eq_cons.2 ⟨h.assign_eq r, hlabels⟩, ?_⟩
    simpa [List.append_assoc] using hrecords

/-- No label is handed out twice in a scope. -/
theorem nodup_labelsIn_serve (requests : List Request) (scope : String) (ls : Labels) :
    (labelsIn scope (requests.zip (serve requests ls).1)).Nodup := by
  have hnodup := (extends_mapM_fresh Request.scope Request.base requests ls).nodup
  have hsub := hnodup.sublist
    ((List.filter_sublist (p := fun e => decide (e.1.scope = scope))).map
      fun e : Request × String => (e.1.scope, e.2))
  have hscope : ((requests.zip (serve requests ls).1).filter (·.1.scope = scope)).map
      (fun e => (e.1.scope, e.2)) =
      (labelsIn scope (requests.zip (serve requests ls).1)).map (scope, ·) := by
    rw [labelsIn, List.map_map]
    refine List.map_congr_left fun e he => ?_
    have hin : e.1.scope = scope := by simpa using (List.mem_filter.1 he).2
    rw [hin]
    rfl
  have hpairs : ((labelsIn scope (requests.zip (serve requests ls).1)).map (scope, ·)).Nodup := by
    rw [← hscope]
    exact hsub
  exact hpairs.of_map _

/-- Labels that are handed out with remembered numbers are those of the plain search. So the labels
of a scope are distinct identifiers, a base that is an identifier is at most numbered, what is taken
in a scope is what was handed out there, and a scope does not notice the others. -/
theorem serve_searched (requests : List Request) :
    let labels := (serve requests .empty).1
    let ls := (serve requests .empty).2
    let served := requests.zip labels
    labels = search [] requests ∧
    (∀ scope, (labelsIn scope served).Nodup) ∧
    (∀ label ∈ labels, isIdentifier label = true) ∧
    (∀ e ∈ served, isIdentifier e.1.base = true →
      e.2 = e.1.base ∨ ∃ n, 2 ≤ n ∧ e.2 = numbered e.1.base n) ∧
    (∀ scope label, ls.isTaken scope label = true ↔ label ∈ labelsIn scope served) ∧
    ∀ scope, let own := requests.filter (·.scope = scope)
      (serve own .empty).1 = labelsIn scope served ∧
      ∀ label, (serve own .empty).2.isTaken scope label = ls.isTaken scope label := by
  intro labels ls served
  obtain ⟨hlabels, hrecords⟩ := serve_eq_search Labels.records_empty requests
  have hserved : served = requests.zip (search [] requests) := by rw [← hlabels]
  rw [List.nil_append, ← hserved] at hrecords
  refine ⟨hlabels, fun scope => nodup_labelsIn_serve requests scope .empty, ?_, ?_,
    hrecords.taken, fun scope => ?_⟩
  · exact yields_mapM (fun r _ => yields_fresh r.scope r.base) .empty
  · intro e he hbase
    rw [hserved] at he
    obtain ⟨used, hused⟩ := exists_firstFree he
    rw [sanitize_of_isIdentifier hbase] at hused
    rw [hused]
    exact firstFree_eq used e.1.base
  · intro own
    obtain ⟨hown, hownRecords⟩ := serve_eq_search Labels.records_empty own
    have hsearch : search [] own = labelsIn scope served := by
      rw [hserved]
      exact search_filter scope requests rfl
    have hsame : labelsIn scope (own.zip (search [] own)) = search [] own := by
      rw [← search_filter scope own rfl, List.filter_filter]
      simp only [Bool.and_self]
      rfl
    refine ⟨hown.trans hsearch, fun label => Bool.eq_iff_iff.2 ?_⟩
    rw [hownRecords.taken, hrecords.taken, List.nil_append, hsame, hsearch]

example : (serve [⟨"", "node2"⟩, ⟨"", "node"⟩, ⟨"x", "node"⟩, ⟨"", "node"⟩] .empty).1 =
    ["node2", "node", "node", "node3"] := by decide +kernel

end Labelling

end AgentConvert
