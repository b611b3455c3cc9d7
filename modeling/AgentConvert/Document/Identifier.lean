/-!
# Identifiers, literals and keys

Names of attributes, blocks and labels are identifiers: an ASCII letter or an underscore, then
letters, digits and underscores. Any text can be turned into one (`isIdentifier_sanitize`).

A string literal stands between double quotes, with five characters escaped. The key of an object
field is bare when it is an identifier, and a string literal otherwise.
-/

namespace AgentConvert

/-! ## Identifiers -/

/-- Whether an identifier can start with `c`. -/
def isIdentStart (c : Char) : Bool := c.isAlpha || c == '_'

/-- Whether an identifier can go on with `c`. -/
def isIdentContinue (c : Char) : Bool := c.isAlphanum || c == '_'

/-- Whether the characters are those of an identifier. -/
def isIdentifierChars : List Char → Bool
  | [] => false
  | c :: rest => isIdentStart c && rest.all isIdentContinue

/-- Whether `s` is an identifier. -/
def isIdentifier (s : String) : Bool := isIdentifierChars s.toList

/-- The characters of an identifier that is like `cs`: what cannot stand in one becomes an
underscore, and an underscore goes before a digit at the head. -/
def sanitizeChars (cs : List Char) : List Char :=
  let kept := cs.map fun c => if isIdentContinue c then c else '_'
  match kept with
  | [] => ['_']
  | c :: rest => if c.isDigit then '_' :: c :: rest else c :: rest

/-- An identifier that is like `s`. -/
def sanitize (s : String) : String := String.ofList (sanitizeChars s.toList)

theorem isIdentStart_of_continue {c : Char} (h : isIdentContinue c = true)
    (hd : c.isDigit = false) : isIdentStart c = true := by
  simp only [isIdentContinue, Char.isAlphanum, Bool.or_eq_true] at h
  simp only [isIdentStart, Bool.or_eq_true]
  rcases h with (h | h) | h
  · exact .inl h
  · simp [hd] at h
  · exact .inr h

/-- The result of `sanitizeChars` is an identifier. -/
theorem isIdentifierChars_sanitizeChars (cs : List Char) :
    isIdentifierChars (sanitizeChars cs) = true := by
  have hall : ∀ c ∈ cs.map (fun c => if isIdentContinue c then c else '_'),
      isIdentContinue c = true := by
    simp only [List.mem_map]
    rintro c ⟨d, -, rfl⟩
    split
    · assumption
    · decide
  unfold sanitizeChars
  dsimp only
  split
  · decide
  · rename_i c rest heq
    rw [heq] at hall
    have hc := hall c (List.mem_cons_self ..)
    have hrest : rest.all isIdentContinue = true :=
      List.all_eq_true.2 fun d hd => hall d (List.mem_cons_of_mem _ hd)
    split
    · simp [isIdentifierChars, isIdentStart, hc, hrest]
    · rename_i hd
      simp [isIdentifierChars, isIdentStart_of_continue hc (by simpa using hd), hrest]

theorem isIdentifier_sanitize (s : String) : isIdentifier (sanitize s) = true := by
  simp [isIdentifier, sanitize, isIdentifierChars_sanitizeChars]

/-! ## String literals and keys -/

/-- How a character is spelled inside a string literal. -/
def escapeChar : Char → List Char
  | '"' => ['\\', '"']
  | '\\' => ['\\', '\\']
  | '\n' => ['\\', 'n']
  | '\r' => ['\\', 'r']
  | '\t' => ['\\', 't']
  | c => [c]

/-- The character that stands behind a backslash as `c`. -/
def unescapeChar? : Char → Option Char
  | '"' => some '"'
  | '\\' => some '\\'
  | 'n' => some '\n'
  | 'r' => some '\r'
  | 't' => some '\t'
  | _ => none

/-- The spelling of a string literal with the content `cs`. -/
def quoteChars (cs : List Char) : List Char := '"' :: cs.flatMap escapeChar ++ ['"']

/-- The spelling of a string literal. -/
def quote (s : String) : String := String.ofList (quoteChars s.toList)

/-- The spelling of the key of an object field. -/
def keyChars (key : String) : List Char :=
  if isIdentifier key then key.toList else quoteChars key.toList

/-- The spelling of the key of an object field. -/
def objectKey (key : String) : String := String.ofList (keyChars key)

end AgentConvert
