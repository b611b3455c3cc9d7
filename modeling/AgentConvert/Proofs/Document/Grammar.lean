import AgentConvert.Document.Basic
import AgentConvert.Document.Identifier
import AgentConvert.Document.Token

/-!
# The grammar of documents

The documents that a text can spell are the well-formed ones. Names of attributes and segments of
names are identifiers, numbers are spelled as the grammar has them (`IsNumber`), and a reference
does not start with a word that stands for a literal (`IsReference`). Labels, texts and keys of
objects are arbitrary.

The grammar says which tokens stand for which expression, statement and body. A list of items or
fields may have a comma behind its last member and no empty member; `null`, `true` and `false` are
literals where an expression starts. The relations say nothing about lines, and the end of the text
is not among the tokens.
-/

namespace AgentConvert

/-! ## Words -/

/-- Digits, one at least. -/
def AreDigits (cs : List Char) : Prop := cs ≠ [] ∧ ∀ c ∈ cs, c.isDigit = true

instance (cs : List Char) : Decidable (AreDigits cs) :=
  decidable_of_iff (cs ≠ [] ∧ cs.all Char.isDigit = true) (by rw [List.all_eq_true]; rfl)

/-- A point and digits, or nothing. -/
def IsFraction (cs : List Char) : Prop := cs = [] ∨ ∃ ds, cs = '.' :: ds ∧ AreDigits ds

/-- An `e`, a sign or none, and digits, or nothing at all. -/
def IsExponent (cs : List Char) : Prop :=
  cs = [] ∨ ∃ e sign ds, cs = e :: (sign ++ ds) ∧ (e = 'e' ∨ e = 'E') ∧
    (sign = [] ∨ sign = ['+'] ∨ sign = ['-']) ∧ AreDigits ds

/-- The spelling of a number: a minus or none, digits, a fraction and an exponent. -/
def IsNumber (cs : List Char) : Prop :=
  ∃ sign whole fraction exponent, cs = sign ++ (whole ++ (fraction ++ exponent)) ∧
    (sign = [] ∨ sign = ['-']) ∧ AreDigits whole ∧ IsFraction fraction ∧ IsExponent exponent

/-- The words that are literals where an expression starts. -/
def literalWords : List String := ["null", "true", "false"]

/-- The segments of a name: identifiers, one at least. -/
def IsName (segments : List String) : Prop :=
  segments ≠ [] ∧ ∀ s ∈ segments, isIdentifier s = true

/-- The segments of a name that an expression may start with. -/
def IsReference (segments : List String) : Prop :=
  IsName segments ∧ ∀ s ∈ segments.head?, s ∉ literalWords

instance (segments : List String) : Decidable (IsName segments) :=
  inferInstanceAs (Decidable (_ ∧ _))

instance (segments : List String) : Decidable (IsReference segments) :=
  inferInstanceAs (Decidable (_ ∧ _))

/-! ## Expressions -/

namespace Expr

mutual
/-- Whether a text can spell the expression. -/
def WellFormed : Expr → Prop
  | .null | .bool _ | .str _ => True
  | .number n => IsNumber n.toList
  | .path segments => IsReference segments
  | .array items => WellFormedItems items
  | .object fields => WellFormedFields fields
  | .call callee args => IsReference callee ∧ WellFormedItems args

/-- Whether a text can spell each of the items. -/
def WellFormedItems : List Expr → Prop
  | [] => True
  | e :: es => e.WellFormed ∧ WellFormedItems es

/-- Whether a text can spell the value of each of the fields. -/
def WellFormedFields : List (String × Expr) → Prop
  | [] => True
  | (_, e) :: fields => e.WellFormed ∧ WellFormedFields fields
end

end Expr

/-! ## Statements -/

mutual
/-- Whether a text can spell the statement. -/
def Statement.WellFormed : Statement → Prop
  | .attribute name value => isIdentifier name = true ∧ value.WellFormed
  | .block name _ body => IsName name ∧ Body.WellFormed body

/-- Whether a text can spell each of the statements. -/
def Body.WellFormed : Body → Prop
  | [] => True
  | s :: rest => s.WellFormed ∧ Body.WellFormed rest
end

/-! ## Tokens of names -/

/-- The tokens of the segments of a name behind its first one. -/
def segmentTokens (segments : List String) : List Token :=
  segments.flatMap fun s => [.dot, .ident s]

/-- The tokens of a dotted name. -/
def nameTokens (word : String) (segments : List String) : List Token :=
  .ident word :: segmentTokens segments

@[simp] theorem segmentTokens_nil : segmentTokens [] = [] := rfl

@[simp] theorem segmentTokens_cons (s : String) (segments : List String) :
    segmentTokens (s :: segments) = .dot :: .ident s :: segmentTokens segments := rfl

/-! ## Tokens of expressions -/

mutual
/-- The tokens that stand for an expression. -/
inductive ExprTokens : List Token → Expr → Prop
  | null : ExprTokens [.ident "null"] .null
  | bool (b : Bool) : ExprTokens [.ident (if b then "true" else "false")] (.bool b)
  | number (n : String) : ExprTokens [.number n] (.number n)
  | str (s : String) : ExprTokens [.str s] (.str s)
  | path {word : String} {segments : List String} (hw : word ∉ literalWords) :
    ExprTokens (nameTokens word segments) (.path (word :: segments))
  | array {ts : List Token} {items : List Expr} (h : ItemsTokens ts items) :
    ExprTokens (.openBracket :: (ts ++ [.closeBracket])) (.array items)
  | object {ts : List Token} {fields : List (String × Expr)} (h : FieldsTokens ts fields) :
    ExprTokens (.openBrace :: (ts ++ [.closeBrace])) (.object fields)
  | call {word : String} {segments : List String} {ts : List Token} {args : List Expr}
    (hw : word ∉ literalWords) (h : ItemsTokens ts args) :
    ExprTokens (nameTokens word segments ++ .openParen :: (ts ++ [.closeParen]))
      (.call (word :: segments) args)

/-- The tokens that stand for a list of items, without what closes it. -/
inductive ItemsTokens : List Token → List Expr → Prop
  | nil : ItemsTokens [] []
  | last {ts : List Token} {e : Expr} (h : ExprTokens ts e) : ItemsTokens ts [e]
  | cons {ts us : List Token} {e : Expr} {es : List Expr} (h : ExprTokens ts e)
    (hs : ItemsTokens us es) : ItemsTokens (ts ++ .comma :: us) (e :: es)

/-- The tokens that stand for the fields of an object, without its braces. -/
inductive FieldsTokens : List Token → List (String × Expr) → Prop
  | nil : FieldsTokens [] []
  | last {k : Token} {key : String} {ts : List Token} {e : Expr}
    (hk : k = .ident key ∨ k = .str key) (h : ExprTokens ts e) :
    FieldsTokens (k :: .assign :: ts) [(key, e)]
  | cons {k : Token} {key : String} {ts us : List Token} {e : Expr}
    {fields : List (String × Expr)} (hk : k = .ident key ∨ k = .str key) (h : ExprTokens ts e)
    (hs : FieldsTokens us fields) :
    FieldsTokens (k :: .assign :: (ts ++ .comma :: us)) ((key, e) :: fields)
end

/-! ## Tokens of statements -/

/-- The tokens of a block's label. -/
def labelTokens : Option String → List Token
  | none => []
  | some l => [.str l]

mutual
/-- The tokens that stand for a statement. -/
inductive StatementTokens : List Token → Statement → Prop
  | attribute {name : String} {ts : List Token} {value : Expr} (h : ExprTokens ts value) :
    StatementTokens (.ident name :: .assign :: ts) (.attribute name value)
  | block {word : String} {segments : List String} {label : Option String} {ts : List Token}
    {body : Body} (h : BodyTokens ts body) :
    StatementTokens (nameTokens word segments ++
      (labelTokens label ++ .openBrace :: (ts ++ [.closeBrace])))
      (.block (word :: segments) label body)

/-- The tokens that stand for the statements of a document or of a block. -/
inductive BodyTokens : List Token → Body → Prop
  | nil : BodyTokens [] []
  | cons {ts us : List Token} {s : Statement} {body : Body} (h : StatementTokens ts s)
    (hs : BodyTokens us body) : BodyTokens (ts ++ us) (s :: body)
end

end AgentConvert
