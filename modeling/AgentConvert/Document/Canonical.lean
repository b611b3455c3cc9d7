import AgentConvert.Document.Compact

/-!
# Canonical layout

The layout of finished documents:

- a tab per level;
- a blank line between two statements when one of them is a block;
- `=` aligned over each run of attributes, and over the fields of an object;
- an object that is not empty over several lines, a comma behind each field;
- arrays and calls on one line unless an item spans lines, and then an item per line, except for
  arrays of objects that are not empty, which open and close on the lines of their objects.
-/

namespace AgentConvert

namespace Expr

mutual
/-- Whether the canonical layout of the expression spans lines. -/
def isMultiline : Expr → Bool
  | .object fields => !fields.isEmpty
  | .array items => anyMultiline items
  | .call _ args => anyMultiline args
  | _ => false

/-- Whether the canonical layout of some item spans lines. -/
def anyMultiline : List Expr → Bool
  | [] => false
  | e :: es => e.isMultiline || anyMultiline es
end

/-- Whether the expression is an object with fields. -/
def isFullObject : Expr → Bool
  | .object fields => !fields.isEmpty
  | _ => false

/-- `cs` with blanks behind it up to `width` characters. -/
def padTo (width : Nat) (cs : List Char) : List Char :=
  cs ++ List.replicate (width - cs.length) ' '

/-- The width of the longest key as it is written. -/
def keyWidth (fields : List (String × Expr)) : Nat :=
  fields.foldl (fun width field => max width (keyChars field.1).length) 0

mutual
/-- The expression in canonical layout; its further lines stand at `depth`. -/
def layoutChars (depth : Nat) : Expr → List Char
  | .array items =>
    if !anyMultiline items || items.all isFullObject then
      '[' :: layoutInline depth items ++ [']']
    else '[' :: '\n' :: layoutItems (depth + 1) items ++ tabs depth ++ [']']
  | .object [] => ['{', '}']
  | .object (field :: fields) =>
    '{' :: '\n' :: layoutFields (depth + 1) (keyWidth (field :: fields)) (field :: fields) ++
      tabs depth ++ ['}']
  | .call callee args =>
    if anyMultiline args then
      nameChars callee ++ '(' :: '\n' :: layoutItems (depth + 1) args ++ tabs depth ++ [')']
    else (Expr.call callee args).compactChars
  | e => e.compactChars

/-- The items one behind the other. -/
def layoutInline (depth : Nat) : List Expr → List Char
  | [] => []
  | [e] => e.layoutChars depth
  | e :: es => e.layoutChars depth ++ ',' :: ' ' :: layoutInline depth es

/-- The items one per line, a comma behind each. -/
def layoutItems (depth : Nat) : List Expr → List Char
  | [] => []
  | e :: es => tabs depth ++ e.layoutChars depth ++ ',' :: '\n' :: layoutItems depth es

/-- The fields one per line, a comma behind each, with keys of the given width. -/
def layoutFields (depth width : Nat) : List (String × Expr) → List Char
  | [] => []
  | (key, e) :: fields =>
    tabs depth ++ padTo width (keyChars key) ++ ' ' :: '=' :: ' ' :: e.layoutChars depth ++
      ',' :: '\n' :: layoutFields depth width fields
end

end Expr

namespace Statement

/-- The width of the longest name in the run of attributes at the head. -/
def runWidth : Body → Nat
  | .attribute name _ :: rest => max name.length (runWidth rest)
  | _ => 0

/-- What stands before a statement in its body. -/
inductive Preceding where
  | nothing
  | aBlock
  | aRun (width : Nat)
  deriving DecidableEq

mutual
/-- A block in canonical layout, at `depth`; an attribute with its name padded to `width`. -/
def layoutChars (depth width : Nat) : Statement → List Char
  | .attribute name value =>
    tabs depth ++ Expr.padTo width name.toList ++ ' ' :: '=' :: ' ' :: value.layoutChars depth ++
      ['\n']
  | .block name label [] => tabs depth ++ headerChars name label ++ [' ', '{', ' ', '}', '\n']
  | .block name label (s :: body) =>
    tabs depth ++ headerChars name label ++ ' ' :: '{' :: '\n' ::
      layoutBody (depth + 1) .nothing (s :: body) ++ tabs depth ++ ['}', '\n']

/-- The statements of a body in canonical layout, at `depth`, behind what precedes them. -/
def layoutBody (depth : Nat) (before : Preceding) : Body → List Char
  | [] => []
  | .attribute name value :: rest =>
    let width := match before with
      | .aRun width => width
      | _ => runWidth (.attribute name value :: rest)
    (if before = .aBlock then ['\n'] else []) ++
      (Statement.attribute name value).layoutChars depth width ++
      layoutBody depth (.aRun width) rest
  | .block name label body :: rest =>
    (if before = .nothing then [] else ['\n']) ++
      (Statement.block name label body).layoutChars depth 0 ++ layoutBody depth .aBlock rest
end

end Statement

/-- A document in canonical layout. -/
def Body.canonical (body : Body) : String :=
  String.ofList (Statement.layoutBody 0 .nothing body)

end AgentConvert
