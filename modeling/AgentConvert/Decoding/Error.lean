import AgentConvert.Duration
import AgentConvert.Number.Shortest
import AgentConvert.Text.Quoted
import AgentConvert.Value.Basic

/-!
# Decoding errors

Why a value is not the setting that it should be, and the words for it. The body of a component
names nothing and numbers in its own way.
-/

namespace AgentConvert

/-- What a setting wants. -/
inductive Expected where
  | text
  | boolean
  | list
  | map
  /-- A whole number from zero on of so many bits. -/
  | unsigned (bits : Nat)
  | number
  | record (name : String)
  /-- The name of a field of a record. -/
  | fieldName
  /-- The first key of an object. -/
  | objectKey
  deriving DecidableEq

def Expected.phrase : Expected → String
  | text => "a string"
  | boolean => "a boolean"
  | list => "a sequence"
  | map => "a map"
  | unsigned bits => "u" ++ toString bits
  | number => "f64"
  | record name => "struct " ++ name
  | fieldName => "field identifier"
  | objectKey => "a string key"

/-- Why a value is not the setting that it should be. -/
inductive DecodeError where
  | wrongType (found : Value) (expected : Expected)
  | outOfRange (number : Int) (expected : Expected)
  | missingField (name : String)
  | repeatedField (name : String)
  /-- A list of `length` items for a record that takes `taken`. -/
  | wrongLength (length taken : Nat)
  | duration (input : String) (fault : Duration.Fault)
  /-- A text that cannot be read as what is wanted. -/
  | unreadable

namespace DecodeError

/-- What a value is, in words. -/
def describe (inBody : Bool) : Value → String
  | .null => if inBody then "null" else "unit value"
  | .bool b => "boolean `" ++ toString b ++ "`"
  | .int n => "integer `" ++ toString n ++ "`"
  | .float x => "floating point `" ++ (if inBody then x.exponentText else x.pointedText) ++ "`"
  | .text s | .scalar _ _ s => "string " ++ Text.quoted s
  | .list _ => "sequence"
  | .map _ => "map"
  | .tagged _ v => describe inBody v
  | .reference _ => "reference"

/-- How many items a list may have. -/
def itemCount (inBody : Bool) (taken : Nat) : String :=
  if inBody then "fewer elements in array"
  else if taken == 1 then "1 element in sequence"
  else toString taken ++ " elements in sequence"

/-- The message; `inBody` says whether the value is in the body of a component. -/
def message (inBody : Bool) : DecodeError → String
  | wrongType found expected =>
    "invalid type: " ++ describe inBody found ++ ", expected " ++ expected.phrase
  | outOfRange n expected =>
    "invalid value: integer `" ++ toString n ++ "`, expected " ++ expected.phrase
  | missingField name => "missing field `" ++ name ++ "`"
  | repeatedField name => "duplicate field `" ++ name ++ "`"
  | wrongLength length taken =>
    "invalid length " ++ toString length ++ ", expected " ++ itemCount inBody taken
  | duration input fault => fault.message input
  | unreadable => "unreadable value"

end DecodeError

end AgentConvert
