import AgentConvert.Pattern.Fault
import AgentConvert.Pattern.Tree
import AgentConvert.Unicode.Age
import AgentConvert.Unicode.BinaryProperty
import AgentConvert.Unicode.Script

/-!
# Classes of properties

The characters that a question about properties stands for. A question names a property with two
values, a category or a script, or it names a property and a value of it. Some properties of the
standard have names here and nothing else: no question about them has an answer.

Names of properties and of their values are compared loosely (`looseName`): cases, blanks, hyphens,
underscores and an `is` at the head do not count, nor does what is not ASCII.
-/

namespace AgentConvert.Unicode

/-- A name without what does not count. The name that would be left with a `c` alone is the short
name of ISO comments. -/
def looseName (name : String) : String :=
  let cs := name.toList
  let starts := (cs.take 2).map Char.toLower == ['i', 's']
  let kept := (if starts then cs.drop 2 else cs).filter fun c =>
    c.toNat < 0x80 && c != ' ' && c != '_' && c != '-'
  let name := String.ofList (kept.map Char.toLower)
  if starts && name == "c" then "isc" else name

end AgentConvert.Unicode

namespace AgentConvert.Pattern

open Unicode

/-- The properties that have more than two values and can be asked for. -/
inductive ValuedProperty where
  | category
  | script
  | scriptExtensions
  | age
  | breaks (unit : TextUnit)
  deriving DecidableEq

/-- The property with more than two values that a name stands for. -/
def ValuedProperty.named? (name : String) : Option ValuedProperty :=
  match name with
  | "gc" | "generalcategory" => some category
  | "sc" | "script" => some script
  | "scx" | "scriptextensions" => some scriptExtensions
  | "age" => some age
  | "gcb" | "graphemeclusterbreak" => some (breaks .grapheme)
  | "wb" | "wordbreak" => some (breaks .word)
  | "sb" | "sentencebreak" => some (breaks .sentence)
  | _ => none

/-- The names of properties that cannot be asked for. -/
def otherPropertyNames : List String := [
  "bc", "bidiclass", "bidimirroringglyph", "bidipairedbracket", "bidipairedbrackettype", "blk",
  "block", "bmg", "bpb", "bpt", "canonicalcombiningclass", "casefolding", "ccc", "ce", "cf",
  "changeswhennfkccasefolded", "cjkaccountingnumeric", "cjkcompatibilityvariant", "cjkiicore",
  "cjkirggsource", "cjkirghsource", "cjkirgjsource", "cjkirgkpsource", "cjkirgksource",
  "cjkirgmsource", "cjkirgssource", "cjkirgtsource", "cjkirguksource", "cjkirgusource",
  "cjkirgvsource", "cjkothernumeric", "cjkprimarynumeric", "cjkrsunicode", "compex",
  "compositionexclusion", "cwkcf", "decompositionmapping", "decompositiontype", "dm", "dt", "ea",
  "eastasianwidth", "equideo", "equivalentunifiedideograph", "expandsonnfc", "expandsonnfd",
  "expandsonnfkc", "expandsonnfkd", "fcnfkc", "fcnfkcclosure", "fullcompositionexclusion",
  "hangulsyllabletype", "hst", "incb", "indicconjunctbreak", "indicpositionalcategory",
  "indicsyllabiccategory", "inpc", "insc", "isc", "jamoshortname", "jg", "joininggroup",
  "joiningtype", "jsn", "jt", "kaccountingnumeric", "kcompatibilityvariant", "kehcat", "kehdesc",
  "kehhg", "kehifao", "kehjsesh", "kehnomirror", "kehnorotate", "kiicore", "kirggsource",
  "kirghsource", "kirgjsource", "kirgkpsource", "kirgksource", "kirgmsource", "kirgssource",
  "kirgtsource", "kirguksource", "kirgusource", "kirgvsource", "kothernumeric", "kprimarynumeric",
  "krsunicode", "lb", "lc", "linebreak", "lowercasemapping", "na", "na1", "name", "namealias",
  "nfcqc", "nfcquickcheck", "nfdqc", "nfdquickcheck", "nfkccasefold", "nfkccf", "nfkcqc",
  "nfkcquickcheck", "nfkcscf", "nfkcsimplecasefold", "nfkdqc", "nfkdquickcheck", "nt",
  "numerictype", "numericvalue", "nv", "ocomment", "scf", "sfc", "simplecasefolding",
  "simplelowercasemapping", "simpletitlecasemapping", "simpleuppercasemapping", "slc", "stc", "suc",
  "tc", "titlecasemapping", "uc", "unicode1name", "unicoderadicalstroke", "uppercasemapping", "urs",
  "verticalorientation", "vo", "xonfc", "xonfd", "xonfkc", "xonfkd"]

/-- Whether a property has the name. -/
def isPropertyName (name : String) : Bool :=
  (BinaryProperty.named? name).isSome || (ValuedProperty.named? name).isSome ||
    otherPropertyNames.contains name

/-- The characters of the categories with a name, when the name stands for any. -/
def categoryNamed? (name : String) : Option CodeSet :=
  match name with
  | "any" => some .all
  | "ascii" => some (.range 0 0x7f)
  | "assigned" => some (Category.codes [.unassigned]).compl
  | name => (Category.named? name).map fun categories =>
    if categories == [.surrogate] then .empty else Category.codes categories

/-- A value that some character has. -/
def foundValue (codes : Option CodeSet) : Except Fault CodeSet :=
  match codes with
  | some codes => if codes.isEmpty then .error .unknownPropertyValue else .ok codes
  | none => .error .unknownPropertyValue

/-- The characters for which a property has the value with a name. -/
def ValuedProperty.codes? (property : ValuedProperty) (value : String) : Option CodeSet :=
  match property with
  | category => categoryNamed? value
  | script => (Script.named? value).map Script.codes
  | scriptExtensions => (Script.named? value).map Script.extendedCodes
  | age => assignedIn? value
  | breaks unit => unit.named? value

/-- The characters that a question stands for. A few short names of properties stand for categories
when they are alone. -/
def Query.codes : Query → Except Fault CodeSet
  | .named name =>
    let name := looseName name
    if isPropertyName name && !(["cf", "sc", "lc"].contains name) then
      match BinaryProperty.named? name with
      | some property => .ok property.codes
      | none => .error .unknownProperty
    else match categoryNamed? name with
      | some codes => foundValue (some codes)
      | none =>
        match Script.named? name with
        | some script => foundValue (some script.codes)
        | none => .error .unknownProperty
  | .valued name value =>
    let name := looseName name
    if !isPropertyName name then .error .unknownProperty
    else foundValue ((ValuedProperty.named? name).bind (·.codes? (looseName value)))

end AgentConvert.Pattern
