/-!
# Parsed tokens

What a reader of tokens returns. It leaves fewer tokens than it was given, and says so, so that the
readers that call it end.
-/

namespace AgentConvert

/-- What was read from a list of tokens: a value, and fewer than `bound` tokens behind it. -/
structure Parsed (τ α : Type) (bound : Nat) where
  value : α
  rest : List τ
  shorter : rest.length < bound

namespace Parsed

variable {τ α β : Type} {m n : Nat}

/-- The same under a larger bound. -/
def weaken (p : Parsed τ α m) (h : m ≤ n) : Parsed τ α n :=
  ⟨p.value, p.rest, Nat.lt_of_lt_of_le p.shorter h⟩

/-- The same with another value. -/
def map (f : α → β) (p : Parsed τ α n) : Parsed τ β n := ⟨f p.value, p.rest, p.shorter⟩

end Parsed

end AgentConvert
