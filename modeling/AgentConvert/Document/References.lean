import AgentConvert.Diagnostic
import AgentConvert.Document.Basic

/-!
# The reference check

A reference whose first segment is the first segment of a labeled block's name has to name such a
block, by its kind and label, and something behind it. References into other name spaces are left
alone. A path that occurs more than once is reported once.
-/

namespace AgentConvert

mutual
/-- All expressions of a statement, each before its own parts. -/
def Statement.exprs : Statement → List Expr
  | .attribute _ value => value.walk
  | .block _ _ body => exprsOfBody body

/-- All expressions of a body, each before its own parts. -/
def exprsOfBody : Body → List Expr
  | [] => []
  | s :: rest => s.exprs ++ exprsOfBody rest
end

namespace References

/-- The dotted names `kind.label` of the labeled blocks. -/
def components (body : Body) : List String :=
  (Body.blocks body).filterMap fun b =>
    b.label.bind fun label =>
      if b.name.isEmpty then none else some (dottedName b.name ++ "." ++ label)

/-- The first segments of the names of the labeled blocks. -/
def namespaces (body : Body) : List String :=
  (Body.blocks body).filterMap fun b => b.label.bind fun _ => b.name.head?

/-- Whether two segments or more, fewer than all, name one of `components`. -/
def resolves (components segments : List String) : Bool :=
  (List.range segments.length).any fun n =>
    2 ≤ n && components.contains (dottedName (segments.take n))

/-- What references can name: first segments of the names of labeled blocks, and the blocks. -/
structure Known where
  namespaces : List String
  components : List String

/-- What references in a document can name. -/
def known (body : Body) : Known := ⟨namespaces body, components body⟩

/-- Whether a path has to name a block and does not. -/
def Known.dangles (k : Known) (segments : List String) : Bool :=
  match segments.head? with
  | none => false
  | some first => k.namespaces.contains first && !resolves k.components segments

/-- The segments of the references in a document, in order. -/
def paths (body : Body) : List (List String) :=
  (exprsOfBody body).filterMap fun
    | .path segments => some segments
    | _ => none

/-- The paths that name no block of the document, as dotted texts, each once. -/
def dangling (body : Body) : List String :=
  (((paths body).filter (known body).dangles).map dottedName).eraseDups

/-- A warning for each reference that names no block of the document. -/
def check (body : Body) : Diagnostics :=
  (dangling body).map fun path =>
    .warning ("reference " ++ path ++ " does not resolve to a component in the document")

end References

end AgentConvert
