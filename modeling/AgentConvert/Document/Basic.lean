/-!
# Documents

A document is a list of statements. A statement is an attribute (`name = value`) or a block
(`a.b.c "label" { ... }`) that holds statements of its own. Expressions have decidable equality
(`Expr.same_iff`), and so have statements.
-/

namespace AgentConvert

/-- The value of an attribute. A number keeps its spelling; the fields of an object keep their
order. -/
inductive Expr where
  | null
  | bool (value : Bool)
  | number (spelling : String)
  | str (text : String)
  | path (segments : List String)
  | array (items : List Expr)
  | object (fields : List (String × Expr))
  | call (callee : List String) (args : List Expr)
  deriving Inhabited

/-- A statement of a document or of a block. -/
inductive Statement where
  | attribute (name : String) (value : Expr)
  | block (name : List String) (label : Option String) (body : List Statement)
  deriving Inhabited

/-- The statements of a document or of a block. -/
abbrev Body := List Statement

/-- A block on its own. -/
structure Block where
  name : List String
  label : Option String
  body : Body
  deriving Inhabited

/-- The segments of a dotted name. -/
def dotted (s : String) : List String :=
  let rec split (cs : List Char) (word : List Char) : List String :=
    match cs with
    | [] => [String.ofList word.reverse]
    | c :: rest =>
      if c == '.' then String.ofList word.reverse :: split rest [] else split rest (c :: word)
  split s.toList []

/-- The dotted name that `segments` make. -/
def dottedName (segments : List String) : String := ".".intercalate segments

namespace Block

/-- The block as a statement. -/
def statement (b : Block) : Statement := .block b.name b.label b.body

/-- The value of the first attribute called `name`. -/
def attribute? (b : Block) (name : String) : Option Expr :=
  b.body.findSome? fun
    | .attribute n value => if n == name then some value else none
    | .block .. => none

/-- The blocks right inside the block. -/
def blocks (b : Block) : List Block :=
  b.body.filterMap fun
    | .attribute .. => none
    | .block name label body => some ⟨name, label, body⟩

end Block

/-- The blocks among the statements of a body. -/
def Body.blocks (body : Body) : List Block := Block.blocks ⟨[], none, body⟩

namespace Expr

/-! ## Equality -/

mutual
/-- Whether two expressions are the same. -/
def same : Expr → Expr → Bool
  | .null, .null => true
  | .bool a, .bool b => a == b
  | .number a, .number b => a == b
  | .str a, .str b => a == b
  | .path a, .path b => a == b
  | .array a, .array b => sameItems a b
  | .object a, .object b => sameFields a b
  | .call f a, .call g b => f == g && sameItems a b
  | _, _ => false

/-- Whether two lists hold the same expressions. -/
def sameItems : List Expr → List Expr → Bool
  | [], [] => true
  | a :: as, b :: bs => a.same b && sameItems as bs
  | _, _ => false

/-- Whether two lists hold the same keys and expressions. -/
def sameFields : List (String × Expr) → List (String × Expr) → Bool
  | [], [] => true
  | (k, a) :: as, (l, b) :: bs => k == l && a.same b && sameFields as bs
  | _, _ => false
end

mutual
theorem same_iff : ∀ a b : Expr, a.same b = true ↔ a = b
  | .null, b => by cases b <;> simp [same]
  | .bool a, b => by cases b <;> simp [same]
  | .number a, b => by cases b <;> simp [same]
  | .str a, b => by cases b <;> simp [same]
  | .path a, b => by cases b <;> simp [same]
  | .array a, b => by cases b <;> simp [same, sameItems_iff a]
  | .object a, b => by cases b <;> simp [same, sameFields_iff a]
  | .call f a, b => by cases b <;> simp [same, sameItems_iff a]

theorem sameItems_iff : ∀ a b : List Expr, sameItems a b = true ↔ a = b
  | [], b => by cases b <;> simp [sameItems]
  | a :: as, b => by cases b <;> simp [sameItems, same_iff a, sameItems_iff as]

theorem sameFields_iff : ∀ a b : List (String × Expr), sameFields a b = true ↔ a = b
  | [], b => by cases b <;> simp [sameFields]
  | (k, a) :: as, b => by
    cases b <;> simp [sameFields, same_iff a, sameFields_iff as, Prod.ext_iff]
end

instance : DecidableEq Expr := fun a b => decidable_of_iff _ (same_iff a b)

/-! ## Parts -/

/-- The reference that a dotted path spells. -/
def ofDotted (s : String) : Expr := .path (dotted s)

/-- Whether the expression is the array without items. -/
def isEmptyArray : Expr → Bool
  | .array [] => true
  | _ => false

mutual
/-- The expression and all expressions inside it, each before its own parts. -/
def walk : Expr → List Expr
  | .array items => .array items :: walkItems items
  | .call callee args => .call callee args :: walkItems args
  | .object fields => .object fields :: walkFields fields
  | e => [e]

/-- The walks of a list, one after the other. -/
def walkItems : List Expr → List Expr
  | [] => []
  | e :: es => e.walk ++ walkItems es

/-- The walks of the values of `fields`, one after the other. -/
def walkFields : List (String × Expr) → List Expr
  | [] => []
  | (_, e) :: es => e.walk ++ walkFields es
end

end Expr

namespace Statement

mutual
/-- Whether two statements are the same. -/
def same : Statement → Statement → Bool
  | .attribute a v, .attribute b w => a == b && v == w
  | .block n l b, .block m k c => n == m && l == k && sameBody b c
  | _, _ => false

/-- Whether two bodies hold the same statements. -/
def sameBody : Body → Body → Bool
  | [], [] => true
  | a :: as, b :: bs => a.same b && sameBody as bs
  | _, _ => false
end

mutual
theorem same_iff : ∀ a b : Statement, a.same b = true ↔ a = b
  | .attribute a v, b => by cases b <;> simp [same]
  | .block n l c, b => by cases b <;> simp [same, sameBody_iff c, and_assoc]

theorem sameBody_iff : ∀ a b : Body, sameBody a b = true ↔ a = b
  | [], b => by cases b <;> simp [sameBody]
  | a :: as, b => by cases b <;> simp [sameBody, same_iff a, sameBody_iff as]
end

instance : DecidableEq Statement := fun a b => decidable_of_iff _ (same_iff a b)

/-- Whether the statement is a block. -/
def isBlock : Statement → Bool
  | .block .. => true
  | .attribute .. => false

end Statement

end AgentConvert
