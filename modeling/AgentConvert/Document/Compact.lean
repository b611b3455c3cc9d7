import AgentConvert.Document.Basic
import AgentConvert.Document.Identifier

/-!
# Compact layout

Documents with every expression on one line, a tab per level and nothing aligned: the layout in
which documents are put together.
-/

namespace AgentConvert

/-- A tab per level. -/
def tabs (depth : Nat) : List Char := List.replicate depth '\t'

/-- The characters of a dotted name. -/
def nameChars (segments : List String) : List Char := (dottedName segments).toList

namespace Expr

mutual
/-- The expression on one line. -/
def compactChars : Expr → List Char
  | .null => "null".toList
  | .bool b => (if b then "true" else "false").toList
  | .number n => n.toList
  | .str s => quoteChars s.toList
  | .path segments => nameChars segments
  | .array items => '[' :: compactItems items ++ [']']
  | .object [] => ['{', '}']
  | .object (field :: fields) => '{' :: ' ' :: compactFields (field :: fields) ++ [' ', '}']
  | .call callee args => nameChars callee ++ '(' :: compactItems args ++ [')']

/-- Expressions with commas between them. -/
def compactItems : List Expr → List Char
  | [] => []
  | [e] => e.compactChars
  | e :: es => e.compactChars ++ ',' :: ' ' :: compactItems es

/-- Fields with commas between them. -/
def compactFields : List (String × Expr) → List Char
  | [] => []
  | [(key, e)] => keyChars key ++ ' ' :: '=' :: ' ' :: e.compactChars
  | (key, e) :: fields =>
    keyChars key ++ ' ' :: '=' :: ' ' :: e.compactChars ++ ',' :: ' ' :: compactFields fields
end

/-- The expression on one line. -/
def compact (e : Expr) : String := String.ofList e.compactChars

end Expr

/-- A block's name and, if it has one, its label. -/
def headerChars (name : List String) (label : Option String) : List Char :=
  nameChars name ++
    match label with
    | none => []
    | some l => ' ' :: quoteChars l.toList

namespace Statement

mutual
/-- The statement in compact layout, at `depth`. -/
def compactChars (depth : Nat) : Statement → List Char
  | .attribute name value =>
    tabs depth ++ name.toList ++ ' ' :: '=' :: ' ' :: value.compactChars ++ ['\n']
  | .block name label body =>
    tabs depth ++ headerChars name label ++ ' ' :: '{' :: '\n' ::
      compactBody (depth + 1) body ++ tabs depth ++ ['}', '\n']

/-- The statements in compact layout, at `depth`. -/
def compactBody (depth : Nat) : Body → List Char
  | [] => []
  | s :: rest => s.compactChars depth ++ compactBody depth rest
end

end Statement

/-- A document in compact layout. -/
def Body.compact (body : Body) : String := String.ofList (Statement.compactBody 0 body)

/-- A block in compact layout. -/
def Block.compact (b : Block) : String := String.ofList (b.statement.compactChars 0)

end AgentConvert
