import AgentConvert.Environment
import AgentConvert.Proofs.Document.Lexing
import Mathlib.Data.List.TakeWhile

/-!
# What the expansion of environment references does to a text

A reference behind a dollar sign is spelled in one of four ways (`Refers`), and it is taken where it
is spelled and nowhere else (`takeReference?_eq_some_iff`). So a text is expanded from left to right
by one equation for each way in which it can start: `expandChars_escape`, `expandChars_reference`,
and `expandChars_literal` for what starts neither an escape nor a reference. What a reference stands
for is put in front of the expansion of the rest, whatever characters it has (`expand_once`).
-/

namespace AgentConvert.Environment

/-! ## References -/

/-- The ways to refer to a variable behind a dollar sign, in front of `rest`. -/
inductive Refers : List Char → Reference → List Char → Prop
  | braced {name rest : List Char} (hn : isIdentifierChars name = true) :
    Refers ('{' :: (name ++ '}' :: rest)) ⟨name, []⟩ rest
  | colon {name default rest : List Char} (hn : isIdentifierChars name = true)
    (hd : '}' ∉ default) (hm : default.head? ≠ some '-') :
    Refers ('{' :: (name ++ ':' :: (default ++ '}' :: rest))) ⟨name, default⟩ rest
  | minus {name default rest : List Char} (hn : isIdentifierChars name = true)
    (hd : '}' ∉ default) :
    Refers ('{' :: (name ++ ':' :: '-' :: (default ++ '}' :: rest))) ⟨name, default⟩ rest
  | bare {name rest : List Char} (hn : isIdentifierChars name = true)
    (hr : ∀ c ∈ rest.head?, isIdentContinue c = false) : Refers (name ++ rest) ⟨name, []⟩ rest

theorem takeName?_append {name rest : List Char} (hn : isIdentifierChars name = true)
    (hr : ∀ c ∈ rest.head?, isIdentContinue c = false) :
    takeName? (name ++ rest) = some (name, rest) := by
  cases name with
  | nil => exact absurd hn (by decide)
  | cons c name =>
    simp only [isIdentifierChars, Bool.and_eq_true, List.all_eq_true] at hn
    simp [takeName?, hn.1, takeWhile_append hn.2 hr, dropWhile_append hn.2 hr]

/-- What is dropped ends where the first character stands that is kept. -/
theorem head?_dropWhile {p : Char → Bool} {cs : List Char} :
    ∀ c ∈ (cs.dropWhile p).head?, p c = false := by
  intro c hc
  have h := List.head?_dropWhile_not p cs
  rwa [Option.mem_def.1 hc] at h

/-- A name is taken whole. -/
theorem takeName?_eq_some {cs : List Char} {n : List Char × List Char}
    (h : takeName? cs = some n) : cs = n.1 ++ n.2 ∧ isIdentifierChars n.1 = true ∧
      ∀ c ∈ n.2.head?, isIdentContinue c = false := by
  unfold takeName? at h
  split at h
  · exact absurd h (by simp)
  · split at h
    · rename_i c rest hc
      obtain rfl := Option.some.inj h
      refine ⟨?_, ?_, head?_dropWhile⟩
      · rw [List.cons_append, List.takeWhile_append_dropWhile]
      · have hall : (rest.takeWhile isIdentContinue).all isIdentContinue = true :=
          List.all_eq_true.2 fun d hd => List.mem_takeWhile_imp hd
        rw [isIdentifierChars, hc, hall]
        rfl
    · exact absurd h (by simp)

/-- What is behind a minus at the head of a text, and the text itself if none stands there. -/
theorem behindMinus_eq_iff {cs text : List Char} :
    (if cs.head? = some '-' then cs.drop 1 else cs) = text ↔
      cs = '-' :: text ∨ text.head? ≠ some '-' ∧ cs = text := by
  cases cs with
  | nil => simp +contextual [eq_comm]
  | cons c cs =>
    by_cases hc : c = '-'
    · subst hc
      simp only [List.head?_cons, ↓reduceIte, List.drop_succ_cons, List.drop_zero,
        List.cons.injEq, true_and]
      refine ⟨.inl, Or.rec id ?_⟩
      rintro ⟨hm, rfl⟩
      exact absurd rfl hm
    · simp only [List.head?_cons, Option.some.injEq, hc, ↓reduceIte, List.cons.injEq, false_and,
        false_or]
      refine ⟨?_, And.right⟩
      rintro rfl
      exact ⟨by simpa using hc, rfl⟩

/-- A default goes on up to the first closing brace; a minus at its head is no part of it. -/
theorem takeDefault?_eq_some_iff {cs default rest : List Char} :
    takeDefault? cs = some (default, rest) ↔ '}' ∉ default ∧
      (cs = '-' :: (default ++ '}' :: rest) ∨
        default.head? ≠ some '-' ∧ cs = default ++ '}' :: rest) := by
  have hhead : (default ++ '}' :: rest).head? ≠ some '-' ↔ default.head? ≠ some '-' := by
    cases default <;> simp
  rw [← hhead, ← behindMinus_eq_iff]
  unfold takeDefault?
  dsimp only
  generalize (if cs.head? = some '-' then cs.drop 1 else cs) = text
  constructor
  · intro h
    split at h
    · rename_i after heq
      obtain ⟨rfl, rfl⟩ := Prod.mk.inj (Option.some.inj h)
      refine ⟨fun hc => ?_, ?_⟩
      · simpa using List.mem_takeWhile_imp hc
      · rw [← heq, List.takeWhile_append_dropWhile]
    · exact absurd h (by simp)
  · rintro ⟨hd, rfl⟩
    have hall : ∀ c ∈ default, (c != '}') = true := fun c hc => by
      simpa using fun h : c = '}' => hd (h ▸ hc)
    have hbrace : ∀ c ∈ ('}' :: rest).head?, (c != '}') = false := by
      rintro c ⟨⟩
      decide
    simp only [takeWhile_append hall hbrace, dropWhile_append hall hbrace]

/-- A reference is taken where one is spelled, and nowhere else. -/
theorem takeReference?_eq_some_iff {cs rest : List Char} {r : Reference} :
    takeReference? cs = some (r, rest) ↔ Refers cs r rest := by
  constructor
  · intro h
    unfold takeReference? at h
    split at h
    · rename_i inner
      split at h
      · rename_i name after hname
        obtain ⟨rfl, hn, -⟩ := takeName?_eq_some hname
        obtain ⟨rfl, rfl⟩ := Prod.mk.inj (Option.some.inj h)
        exact .braced hn
      · rename_i name after hname
        obtain ⟨rfl, hn, -⟩ := takeName?_eq_some hname
        obtain ⟨d, hd, heq⟩ := Option.map_eq_some_iff.1 h
        obtain ⟨rfl, rfl⟩ := Prod.mk.inj heq
        obtain ⟨hbrace, rfl | ⟨hm, rfl⟩⟩ := takeDefault?_eq_some_iff.1 hd
        · exact .minus hn hbrace
        · exact .colon hn hbrace hm
      · exact absurd h (by simp)
    · obtain ⟨n, hname, heq⟩ := Option.map_eq_some_iff.1 h
      obtain ⟨rfl, hn, hr⟩ := takeName?_eq_some hname
      obtain ⟨rfl, rfl⟩ := Prod.mk.inj heq
      exact .bare hn hr
  · intro h
    cases h with
    | @braced name rest hn =>
      have hname : takeName? (name ++ '}' :: rest) = some (name, '}' :: rest) :=
        takeName?_append hn (by rintro c ⟨⟩; decide)
      simp only [takeReference?, hname]
    | @colon name default rest hn hd hm =>
      have hname : takeName? (name ++ ':' :: (default ++ '}' :: rest)) = some (name, ':' :: _) :=
        takeName?_append hn (by rintro c ⟨⟩; decide)
      simp only [takeReference?, hname, takeDefault?_eq_some_iff.2 ⟨hd, .inr ⟨hm, rfl⟩⟩,
        Option.map_some]
    | @minus name default rest hn hd =>
      have hname : takeName? (name ++ ':' :: '-' :: (default ++ '}' :: rest)) =
          some (name, ':' :: _) := takeName?_append hn (by rintro c ⟨⟩; decide)
      simp only [takeReference?, hname, takeDefault?_eq_some_iff.2 ⟨hd, .inl rfl⟩,
        Option.map_some]
    | @bare name _ hn hr =>
      cases name with
      | nil => exact absurd hn (by decide)
      | cons c name =>
        have hc : c ≠ '{' := by
          have hbrace : isIdentStart '{' = false := by decide
          rintro rfl
          simp [isIdentifierChars, hbrace] at hn
        have hname := takeName?_append hn hr
        rw [List.cons_append] at hname ⊢
        rw [takeReference?.eq_def]
        split
        · rename_i heq
          exact absurd (List.cons.inj heq).1 hc
        · rw [hname]
          rfl

/-! ## Steps -/

variable (lookup : String → Option String)

/-- Whether an escape or a reference stands at the head of a text. -/
def StartsForm (cs : List Char) : Prop :=
  (∃ rest, cs = '$' :: '$' :: rest) ∨ ∃ behind r rest, cs = '$' :: behind ∧ Refers behind r rest

theorem startsForm_iff {c : Char} {rest : List Char} : StartsForm (c :: rest) ↔
    c = '$' ∧ (rest.head? = some '$' ∨ (takeReference? rest).isSome = true) := by
  have hescape : (∃ after, rest = '$' :: after) ↔ rest.head? = some '$' := by
    cases rest <;> simp
  have href : (∃ r after, Refers rest r after) ↔ (takeReference? rest).isSome = true := by
    simp only [← takeReference?_eq_some_iff, Option.isSome_iff_exists, Prod.exists]
  simp only [StartsForm, List.cons.injEq, ← hescape, ← href]
  constructor
  · rintro (⟨after, rfl, heq⟩ | ⟨behind, r, after, ⟨rfl, rfl⟩, h⟩)
    · exact ⟨rfl, .inl ⟨after, heq⟩⟩
    · exact ⟨rfl, .inr ⟨r, after, h⟩⟩
  · rintro ⟨rfl, ⟨after, heq⟩ | ⟨r, after, h⟩⟩
    · exact .inl ⟨after, rfl, heq⟩
    · exact .inr ⟨rest, r, after, ⟨rfl, rfl⟩, h⟩

instance (c : Char) (rest : List Char) : Decidable (StartsForm (c :: rest)) :=
  decidable_of_iff _ startsForm_iff.symm

@[simp] theorem expandChars_nil : expandChars lookup [] = [] := by
  simp [expandChars, pieces]

/-- A dollar sign that is written twice. -/
theorem expandChars_escape (rest : List Char) :
    expandChars lookup ('$' :: '$' :: rest) = '$' :: expandChars lookup rest := by
  simp [expandChars, pieces, Piece.chars]

theorem expandChars_reference {behind rest : List Char} {r : Reference}
    (h : Refers behind r rest) :
    expandChars lookup ('$' :: behind) =
      (Piece.reference r).chars lookup ++ expandChars lookup rest := by
  have htake := takeReference?_eq_some_iff.2 h
  have hdollar : ∀ text, behind ≠ '$' :: text := by
    rintro text rfl
    exact absurd htake (by simp [takeReference?, takeName?, isIdentStart])
  rw [expandChars, pieces.eq_def]
  split
  · rename_i heq
    exact absurd heq (by simp)
  · rename_i heq
    exact absurd (List.cons.inj heq).2 (hdollar _)
  · rename_i heq
    obtain rfl := (List.cons.inj heq).2
    split
    · rename_i hr
      obtain ⟨rfl, rfl⟩ := Prod.mk.inj (Option.some.inj (htake.symm.trans hr))
      rfl
    · rename_i hr
      exact absurd (htake.symm.trans hr) (by simp)
  · rename_i hne heq
    exact absurd (List.cons.inj heq).1.symm hne

/-- What starts neither an escape nor a reference stays. -/
theorem expandChars_literal {c : Char} {rest : List Char} (h : ¬StartsForm (c :: rest)) :
    expandChars lookup (c :: rest) = c :: expandChars lookup rest := by
  rw [expandChars, pieces.eq_def]
  split
  · rename_i heq
    exact absurd heq (by simp)
  · rename_i after heq
    exact absurd (.inl ⟨after, heq⟩) h
  · rename_i behind _ heq
    split
    · rename_i r after hr
      exact absurd (.inr ⟨behind, r, after, heq, takeReference?_eq_some_iff.1 hr⟩) h
    · obtain ⟨rfl, rfl⟩ := List.cons.inj heq
      rfl
  · rename_i heq
    obtain ⟨rfl, rfl⟩ := List.cons.inj heq
    rfl

/-! ## Texts -/

/-- The characters with every dollar sign written twice. -/
def escapeChars (cs : List Char) : List Char :=
  cs.flatMap fun c => if c = '$' then ['$', '$'] else [c]

/-- The text with every dollar sign written twice. -/
def escape (s : String) : String := String.ofList (escapeChars s.toList)

theorem expandChars_escapeChars (cs rest : List Char) :
    expandChars lookup (escapeChars cs ++ rest) = cs ++ expandChars lookup rest := by
  induction cs with
  | nil => rfl
  | cons c cs ih =>
    rw [escapeChars, List.flatMap_cons, List.append_assoc, ← escapeChars]
    by_cases hc : c = '$'
    · subst hc
      rw [if_pos rfl, List.cons_append, List.singleton_append, expandChars_escape, ih,
        List.cons_append]
    · have hnot : ¬StartsForm (c :: (escapeChars cs ++ rest)) := by
        exact fun h => hc (startsForm_iff.1 h).1
      rw [if_neg hc, List.singleton_append, expandChars_literal lookup hnot, ih, List.cons_append]

/-- A reference at the head of a text is replaced, and what is behind it is expanded. -/
theorem expand_of_refers {s rest : String} {behind : List Char} {r : Reference}
    (hs : s.toList = '$' :: behind) (h : Refers behind r rest.toList) :
    expand lookup s = (lookup (String.ofList r.name)).getD (String.ofList r.default) ++
      expand lookup rest := by
  rw [expand, hs, expandChars_reference lookup h, String.ofList_append, ← expand, Piece.chars]
  congr 1
  cases lookup (String.ofList r.name) with
  | none => rfl
  | some value => exact String.ofList_toList

/-- A text is expanded in one pass: an escape, a reference or any other character at its head is
replaced once, and the rest is expanded alike. -/
theorem expand_once (rest : String) :
    expand lookup "" = "" ∧
    (∀ s : String, expand lookup (escape s ++ rest) = s ++ expand lookup rest) ∧
    (∀ name : String, isIdentifier name = true →
      expand lookup ("$\x7b" ++ name ++ "\x7d" ++ rest) =
        (lookup name).getD "" ++ expand lookup rest ∧
      (∀ default : String, '}' ∉ default.toList →
        expand lookup ("$\x7b" ++ name ++ ":-" ++ default ++ "\x7d" ++ rest) =
          (lookup name).getD default ++ expand lookup rest ∧
        (default.toList.head? ≠ some '-' →
          expand lookup ("$\x7b" ++ name ++ ":" ++ default ++ "\x7d" ++ rest) =
            (lookup name).getD default ++ expand lookup rest)) ∧
      ((∀ c ∈ rest.toList.head?, isIdentContinue c = false) →
        expand lookup ("$" ++ name ++ rest) = (lookup name).getD "" ++ expand lookup rest)) ∧
    ∀ c : Char, ¬StartsForm (c :: rest.toList) →
      expand lookup (String.singleton c ++ rest) = String.singleton c ++ expand lookup rest := by
  refine ⟨?_, fun s => ?_, fun name hn => ⟨?_, fun default hd => ⟨?_, fun hm => ?_⟩, fun hr => ?_⟩,
    fun c hc => ?_⟩
  · rw [expand, String.toList_empty, expandChars_nil, String.ofList_nil]
  · rw [expand, escape, String.toList_append, String.toList_ofList, expandChars_escapeChars,
      String.ofList_append, String.ofList_toList, ← expand]
  · simpa using expand_of_refers lookup (by simp) (.braced hn)
  · simpa using expand_of_refers lookup (by simp) (.minus hn hd)
  · simpa using expand_of_refers lookup (by simp) (.colon hn hd hm)
  · simpa using expand_of_refers lookup (by simp) (.bare hn hr)
  · rw [expand, String.toList_append, String.toList_singleton, List.singleton_append,
      expandChars_literal lookup hc, ← List.singleton_append, String.ofList_append, ← expand]
    rfl

/-- One variable is set, to a text that refers to it. -/
def homeOnly (name : String) : Option String := if name = "HOME" then some "$HOME" else none

theorem expand_once_homeOnly :
    expand homeOnly ("$\x7b" ++ "HOME" ++ "\x7d" ++ "$5") = "$HOME" ++ expand homeOnly "$5" ∧
    expand homeOnly ("$\x7b" ++ "PORT" ++ ":-" ++ "-$\x7bHOME" ++ "\x7d" ++ "$5") =
      "-$\x7bHOME" ++ expand homeOnly "$5" ∧
    expand homeOnly ("$\x7b" ++ "PORT" ++ ":" ++ "$$\n" ++ "\x7d" ++ "$5") =
      "$$\n" ++ expand homeOnly "$5" ∧
    expand homeOnly ("$" ++ "HOME" ++ "$5") = "$HOME" ++ expand homeOnly "$5" ∧
    expand homeOnly ("$" ++ "5") = "$" ++ expand homeOnly "5" := by
  obtain ⟨-, -, hforms, -⟩ := expand_once homeOnly "$5"
  obtain ⟨hbraced, -, hbare⟩ := hforms "HOME" (by decide)
  obtain ⟨-, hdefault, -⟩ := hforms "PORT" (by decide)
  have hminus := (hdefault "-$\x7bHOME" (by decide)).1
  have hcolon := (hdefault "$$\n" (by decide)).2 (by decide)
  refine ⟨hbraced, hminus, hcolon, hbare (by rintro c ⟨⟩; decide), ?_⟩
  exact (expand_once homeOnly "5").2.2.2 '$' (by decide)

end AgentConvert.Environment
