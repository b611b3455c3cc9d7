import AgentConvert.Text.Utf8
import AgentConvert.Yaml.Character

/-!
# Tags and directives

Tags as they are written, a handle and a suffix, and the directives, which say what a handle stands
for and which version of the format a text is in.
-/

namespace AgentConvert.Yaml

/-- A tag as it is written. The handle is empty if the suffix is the whole tag. -/
structure Tag where
  handle : String
  suffix : String
  deriving DecidableEq, Inhabited

/-- What the tags with a handle begin with. -/
structure TagDirective where
  handle : String
  start : String
  deriving DecidableEq, Inhabited

/-! ## Names of tags -/

namespace Tag

/-- The marks that may stand in the name of a tag. -/
def marks : List Char := ";/?:@&=+$.!~*'()".toList

/-- Whether `c` may stand in the name of a tag; commas and brackets may between angle brackets. -/
def isNameChar (isVerbatim : Bool) (c : Character) : Bool :=
  c.isWord || marks.contains c.char || (isVerbatim && ",[]".toList.contains c.char)

/-- The byte that a percent sign and two digits spell. -/
def byte? (cs : Chars) : Option (Nat × Chars) :=
  match cs with
  | percent :: a :: b :: rest =>
    if percent.char == '%' then do return (16 * (← a.hexDigit?) + (← b.hexDigit?), rest) else none
  | _ => none

/-- How many bytes follow the first byte of an encoded character. -/
def followers? (first : Nat) : Option Nat :=
  if first < 0x80 then some 0
  else if 0xc0 ≤ first ∧ first < 0xe0 then some 1
  else if 0xe0 ≤ first ∧ first < 0xf0 then some 2
  else if 0xf0 ≤ first ∧ first < 0xf8 then some 3
  else none

/-- The following bytes of an encoded character. -/
def following? : Nat → Chars → Option (List Nat × Chars)
  | 0, cs => some ([], cs)
  | n + 1, cs => do
    let (b, rest) ← byte? cs
    if b < 0x80 ∨ 0xc0 ≤ b then failure
    let (bytes, rest) ← following? n rest
    return (b :: bytes, rest)

/-- The bytes of the encoded character at the head. -/
def encoded? (cs : Chars) : Option (List Nat × Chars) := do
  let (b, rest) ← byte? cs
  let (bytes, rest) ← following? (← followers? b) rest
  return (b :: bytes, rest)

/-- Takes the bytes of a name, behind those that are `done`. -/
def nameBytes (isVerbatim : Bool) (cs : Chars) (done : ByteArray) : Option (ByteArray × Chars) :=
  match cs with
  | [] => some (done, [])
  | c :: rest =>
    if c.char == '%' then
      match encoded? (c :: rest) with
      | none => none
      | some (bytes, after) =>
        if after.length < rest.length then
          nameBytes isVerbatim after (bytes.foldl (fun done b => done.push b.toUInt8) done)
        else none
    else if isNameChar isVerbatim c then nameBytes isVerbatim rest (done.push c.char.toNat.toUInt8)
    else some (done, c :: rest)
  termination_by cs.length
  decreasing_by
    all_goals simp only [List.length_cons] at *
    all_goals omega

/-- Takes a name behind its beginning. -/
def name? (isVerbatim : Bool) (start : Chars) (cs : Chars) : Option (String × Chars) := do
  let (bytes, rest) ← nameBytes isVerbatim cs start.text.toUTF8
  match Text.Utf8.decode bytes with
  | .ok s => return (s, rest)
  | .error _ => return ("\ufffd", rest)

/-- Takes a handle: an exclamation mark, or two with a word between them. A word without the second
mark is taken as well. -/
def handle? (cs : Chars) : Option (Chars × Chars) :=
  match cs with
  | c :: rest =>
    if c.char == '!' then
      let word := rest.takeWhile Character.isWord
      let after : Chars := rest.dropWhile Character.isWord
      if after.startsWith '!' then some (c :: word ++ after.take 1, after.drop 1)
      else some (c :: word, after)
    else none
  | [] => none

/-- Whether what `handle?` took is a handle with a second mark. -/
def isNamedHandle (handle : Chars) : Bool :=
  2 ≤ handle.length && (handle.getLast?.map Character.char) == some '!'

/-- Takes a tag without what has to follow it. -/
def take? (cs : Chars) : Option (Tag × Chars) := do
  if Chars.startsWith (cs.drop 1) '<' then
    let (suffix, rest) ← name? true [] (cs.drop 2)
    if suffix.isEmpty ∨ !rest.startsWith '>' then failure
    return (⟨"", suffix⟩, rest.drop 1)
  let (handle, rest) ← handle? cs
  if isNamedHandle handle then
    let (suffix, rest) ← name? false [] rest
    if suffix.isEmpty then failure
    return (⟨handle.text, suffix⟩, rest)
  let (suffix, rest) ← name? false (handle.drop 1) rest
  return (if suffix.isEmpty then ⟨"", "!"⟩ else ⟨"!", suffix⟩, rest)

/-- Takes a tag. A gap has to follow it, or in a flow collection a comma. -/
def read? (inFlow : Bool) (cs : Chars) : Option (Tag × Chars) := do
  let (tag, rest) ← take? cs
  if rest.atGap || (inFlow && rest.startsWith ',') then return (tag, rest) else failure

/-- The full name of a tag; `none` if no directive has its handle. -/
def fullName? (directives : List TagDirective) (tag : Tag) : Option String :=
  if tag.handle.isEmpty then some tag.suffix
  else (directives.find? (·.handle == tag.handle)).map fun d => d.start ++ tag.suffix

end Tag

/-- What handles stand for where no directive says so. -/
def TagDirective.standard : List TagDirective := [⟨"!", "!"⟩, ⟨"!!", "tag:yaml.org,2002:"⟩]

/-! ## Directives -/

/-- A directive. -/
inductive Directive where
  | version (major minor : Nat)
  | tag (directive : TagDirective)
  deriving DecidableEq, Inhabited

namespace Directive

/-- Takes a number of at most nine digits. -/
def number? (cs : Chars) : Option (Nat × Chars) :=
  let digits := (cs.map Character.char).takeWhile Char.isDigit
  if digits.isEmpty ∨ 9 < digits.length then none
  else some (digits.foldl (fun n c => 10 * n + (c.toNat - '0'.toNat)) 0, cs.drop digits.length)

/-- Takes a version, as two numbers with a point between them. -/
def version? (cs : Chars) : Option (Directive × Chars) := do
  let (major, rest) ← number? cs
  if !rest.startsWith '.' then failure
  let (minor, rest) ← number? (rest.drop 1)
  return (.version major minor, rest)

/-- Takes a handle and what it stands for. -/
def tag? (cs : Chars) : Option (Directive × Chars) := do
  let (handle, rest) ← Tag.handle? cs
  if !(Tag.isNamedHandle handle || handle.length == 1) then failure
  if !(List.head? rest).any Character.isBlank then failure
  let (start, rest) ← Tag.name? true [] (rest.dropWhile Character.isBlank)
  if start.isEmpty ∨ !rest.atGap then failure
  return (.tag ⟨handle.text, start⟩, rest)

/-- Takes a directive behind its percent sign, with the line that it ends. -/
def read? (cs : Chars) : Option (Directive × Chars) := do
  let name : Chars := cs.takeWhile Character.isWord
  let rest : Chars := cs.dropWhile Character.isWord
  if !rest.atGap then failure
  let values : Chars := rest.dropWhile Character.isBlank
  let (directive, rest) ← if name.text == "YAML" then version? values
    else if name.text == "TAG" then tag? values
    else none
  return (directive, ← rest.afterLine?)

end Directive

end AgentConvert.Yaml
