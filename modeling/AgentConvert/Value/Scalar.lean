import AgentConvert.Value.Basic

/-!
# Scalars

What a plain scalar of a text stands for where nothing is asked of it: nothing, a truth value, a
whole number, a number, or else its own text. Whole numbers are decimal, hexadecimal, octal or
binary; a zero before further digits makes a text.
-/

namespace AgentConvert.Scalar

/-- The tag of the common kind with this name. -/
def commonTag (kind : String) : String := "tag:yaml.org,2002:" ++ kind

/-- Whether `s` is a word for nothing. -/
def isNull (s : String) : Bool := s == "null" || s == "Null" || s == "NULL" || s == "~"

/-- The truth value that `s` is a word for. -/
def bool? (s : String) : Option Bool :=
  if s == "true" || s == "True" || s == "TRUE" then some true
  else if s == "false" || s == "False" || s == "FALSE" then some false
  else none

/-- The value of a digit in any base up to 16. -/
def digit? (c : Char) : Option Nat :=
  if c.isDigit then some (c.toNat - '0'.toNat)
  else if 'a' ≤ c ∧ c ≤ 'f' then some (c.toNat - 'a'.toNat + 10)
  else if 'A' ≤ c ∧ c ≤ 'F' then some (c.toNat - 'A'.toNat + 10)
  else none

/-- The number that `cs` spells in a base; no digits spell none. -/
def natInBase? (base : Nat) (cs : List Char) : Option Nat :=
  if cs.isEmpty then none
  else cs.foldlM (fun n c => ((digit? c).filter (· < base)).map (base * n + ·)) 0

/-- Whether `cs` is a zero and further digits, after an optional sign. -/
def hasLeadingZero (cs : List Char) : Bool :=
  match (takeSign cs).2 with
  | '0' :: rest => !rest.isEmpty && rest.all Char.isDigit
  | _ => false

/-- The number that `cs` spells without a sign, in any of the notations. -/
def unsigned? (cs : List Char) : Option Nat :=
  let based := match cs with
    | '0' :: 'x' :: rest => natInBase? 16 rest
    | '0' :: 'o' :: rest => natInBase? 8 rest
    | '0' :: 'b' :: rest => natInBase? 2 rest
    | _ => none
  based.or (if hasLeadingZero cs then none else natInBase? 10 cs)

/-- The whole number that `s` spells; a sign may stand before it. -/
def int? (s : String) : Option Int :=
  match takeSign s.toList with
  | (negative, cs) => (unsigned? cs).map fun n => if negative then -(n : Int) else n

/-- The number that `s` spells, with the words for infinities and for no number. -/
def float? (s : String) : Option Binary64 :=
  let unsigned := match s.toList with
    | '+' :: rest => rest
    | cs => cs
  let word := String.ofList unsigned
  if word == ".inf" || word == ".Inf" || word == ".INF" then some (.infinite false)
  else if s == "-.inf" || s == "-.Inf" || s == "-.INF" then some (.infinite true)
  else if s == ".nan" || s == ".NaN" || s == ".NAN" then some .nan
  else if unsigned != s.toList && (word.startsWith "+" || word.startsWith "-") then none
  else (Binary64.read? word).filter Binary64.isFinite

/-- A number with a point or an exponent, or else the text itself. -/
def floatOrText (s : String) : Value :=
  if hasLeadingZero s.toList then .text s else ((float? s).map Value.float).getD (.text s)

/-- Whether a whole number has so many bits, with or without a sign. -/
def fitsIn (bits : Nat) (n : Int) : Bool :=
  -((1 <<< (bits - 1) : Nat) : Int) ≤ n && n < ((1 <<< bits : Nat) : Int)

/-- What a plain scalar stands for; `none` for a whole number that is too large for 64 bits but not
for 128. -/
def plain? (s : String) : Option Value :=
  if s == "" || isNull s then some .null
  else match bool? s with
    | some b => some (.bool b)
    | none => match int? s with
      | some n =>
        if fitsIn 64 n then some (.int n)
        else if fitsIn 128 n then none
        else some (floatOrText s)
      | none => some (floatOrText s)

/-- Whether a tag is one of the configuration's own. -/
def isOwnTag (tag : String) : Bool := tag.startsWith "!"

/-- What a scalar stands for under one of the common tags; `none` if it does not fit the tag. -/
def underTag? (style : ScalarStyle) (tag s : String) : Option Value :=
  if tag == commonTag "bool" then (bool? s).map Value.bool
  else if tag == commonTag "int" then
    (int? s).bind fun n => if fitsIn 64 n then some (.int n) else none
  else if tag == commonTag "float" then (float? s).map Value.float
  else if tag == commonTag "null" then if isNull s then some .null else none
  else if isOwnTag tag && style == .plain then plain? s
  else some (.text s)

/-- What a scalar stands for where nothing is asked of it. -/
def resolve? (style : ScalarStyle) (tag : Option String) (s : String) : Option Value :=
  match tag with
  | some t => underTag? style t s
  | none => if style == .plain then plain? s else some (.text s)

end AgentConvert.Scalar
