import AgentConvert.Argument.Basic
import AgentConvert.Value.Scalar

/-!
# Opaque bodies

The bodies of components, which stay opaque until the kind of the component is known: null, truth
values, numbers, texts, lists, and objects whose fields are in ascending order of their names. A
number is a whole one of at most 64 bits or a finite binary number; numbers written with a point or
an exponent, like `1.0`, and whole ones of more bits are taken for binary numbers.
-/

namespace AgentConvert

/-- A whole number of at most 64 bits, with or without a sign. -/
@[ext]
structure Whole64 where
  value : Int
  fits : Scalar.fitsIn 64 value = true
  deriving DecidableEq

instance : Inhabited Whole64 := ⟨⟨0, by decide⟩⟩

/-- An opaque body or a part of one. -/
inductive Json where
  | null
  | bool (value : Bool)
  | int (value : Whole64)
  /-- A finite binary number, which may have a whole value: `1.0`, or a whole number of more than 64
  bits, rounded. -/
  | float (negative : Bool) (magnitude : Magnitude)
  | text (value : String)
  | list (items : List Json)
  | object (fields : List (String × Json))
  deriving BEq, Inhabited

namespace Json

/-- The object with these fields; of two with one name, the later one counts. -/
def ofFields (fields : List (String × Json)) : Json := .object (Dictionary.ofList fields).entries

/-- A number; an infinity or no number at all is null. -/
def ofFloat : Binary64 → Json
  | .finite negative magnitude => .float negative magnitude
  | _ => .null

/-- A whole number; one of more than 64 bits is taken for the nearest number. -/
def ofInt (n : Int) : Json :=
  if h : Scalar.fitsIn 64 n = true then .int ⟨n, h⟩ else ofFloat (.ofInt n)

mutual
/-- The body that a value is, for values whose maps have texts for keys. -/
def ofValue : Value → Json
  | .null => .null
  | .bool b => .bool b
  | .int n => ofInt n
  | .float x => ofFloat x
  | .text s => .text s
  | .list items => .list (ofItems items)
  | .map entries => ofFields (ofEntries entries)
  | .tagged _ v => ofValue v
  | .scalar _ _ s => .text s
  | .reference _ => .null

/-- The bodies of items. -/
def ofItems : List Value → List Json
  | [] => []
  | v :: rest => ofValue v :: ofItems rest

/-- The fields of entries whose keys are texts. -/
def ofEntries : List (Value × Value) → List (String × Json)
  | [] => []
  | (.text key, v) :: rest => (key, ofValue v) :: ofEntries rest
  | _ :: rest => ofEntries rest
end

mutual
/-- The value that a body is. -/
def toValue : Json → Value
  | .null => .null
  | .bool b => .bool b
  | .int n => .int n.value
  | .float negative magnitude => .float (.finite negative magnitude)
  | .text s => .text s
  | .list items => .list (toItems items)
  | .object fields => .map (toEntries fields)

/-- The values of items. -/
def toItems : List Json → List Value
  | [] => []
  | j :: rest => j.toValue :: toItems rest

/-- The entries of fields. -/
def toEntries : List (String × Json) → List (Value × Value)
  | [] => []
  | (key, j) :: rest => (.text key, j.toValue) :: toEntries rest
end

mutual
/-- The argument that a body is. -/
def argument : Json → Argument
  | .null => .unit
  | .bool b => .bool b
  | .int n => .int n.value
  | .float negative magnitude => .float (.finite negative magnitude)
  | .text s => .text s
  | .list items => .list (argumentItems items)
  | .object fields => .record (argumentFields fields)

/-- The arguments of items. -/
def argumentItems : List Json → List Argument
  | [] => []
  | j :: rest => j.argument :: argumentItems rest

/-- The arguments of fields. -/
def argumentFields : List (String × Json) → Fields
  | [] => []
  | (key, j) :: rest => (key, j.argument) :: argumentFields rest
end

end Json

end AgentConvert
