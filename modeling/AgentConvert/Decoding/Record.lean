import AgentConvert.Decoding.Basic
import AgentConvert.Secret

/-!
# Decoding records

A record is decoded entry by entry in the order of the configuration: the key picks the field, the
field reads the value. A key that no field has is ignored, a field that stands twice is an error,
and the fields that have to be there are looked for at the end.

An open record also takes in the settings of another record. Entries that are none of its own
fields are put aside until all entries are seen; then the other record's fields are read from them,
and what remains may be kept.

Last come the decoders for the settings that occur in many records.
-/

namespace AgentConvert

/-- A field of a record of settings: its key, and what its value changes in the settings. -/
structure Field (σ : Type) where
  key : String
  update : Value → Decode (σ → σ)

namespace Field

variable {σ τ α : Type}

/-- A field that is decoded by `d`. -/
def of (key : String) (d : Decoder α) (set : α → σ → σ) : Field σ :=
  ⟨key, fun v => return set (← d v)⟩

/-- A field of a part of the settings. -/
def inside (change : (τ → τ) → σ → σ) (f : Field τ) : Field σ :=
  ⟨f.key, fun v => return change (← f.update v)⟩

/-- The field with the given key. -/
def withKey? (fields : List (Field σ)) (key : String) : Option (Field σ) :=
  fields.find? (·.key == key)

/-- The field that a key of a map picks. Among the settings of another record, a number picks by
position. -/
def pick (fields : List (Field σ)) : Decoder (Option (Field σ)) := fun key => do
  match ← Decode.follow key with
  | .text s | .scalar _ _ s => return withKey? fields s
  | .int n =>
    if (← read).reading == .inlined && 0 ≤ n then return fields[n.toNat]?
    else throw (.wrongType (.int n) .fieldName)
  | v => throw (.wrongType v .fieldName)

/-- Reads the value of a field into `settings`, unless the field was `seen` before. -/
def readOnce (f : Field σ) (v : Value) (done : σ × List String) : Decode (σ × List String) := do
  if done.2.contains f.key then throw (.repeatedField f.key)
  let update ← f.update v
  return (update done.1, f.key :: done.2)

end Field

/-! ## Records -/

/-- How a record of settings is decoded. -/
structure Record (σ : Type) where
  name : String
  initial : σ
  fields : List (Field σ)
  /-- The fields that have to be there, in order. -/
  required : List String := []

namespace Record

variable {σ : Type}

/-- The settings when the fields `seen` were read, unless one that has to be there was not. -/
def finish (r : Record σ) (done : σ × List String) : Decode σ :=
  match r.required.find? fun key => !done.2.contains key with
  | some key => throw (.missingField key)
  | none => return done.1

/-- Reads one entry of a map. -/
def readEntry (r : Record σ) (done : σ × List String) (entry : Value × Value) :
    Decode (σ × List String) := do
  match ← Field.pick r.fields entry.1 with
  | some f => f.readOnce entry.2 done
  | none => return done

/-- Reads the items of a list into the fields in order. -/
def readItems (r : Record σ) (items : List Value) : Decode σ := do
  let settings ← (r.fields.zip items).foldlM
    (fun settings e => return (← e.1.update e.2) settings) r.initial
  if r.fields.length < items.length then throw (.wrongLength items.length r.fields.length)
  return settings

/-- Decodes a record. -/
def decode (r : Record σ) : Decoder σ := fun v => do
  match ← Decode.bare v with
  | .map entries =>
    Decode.within do r.finish (← entries.foldlM r.readEntry (r.initial, []))
  | .list items =>
    if (← read).reading == .sections then throw (.wrongType (.list items) (.record r.name))
    else Decode.within (r.readItems items)
  | v =>
    if ← Decode.isEmpty v then r.finish (r.initial, [])
    else throw (.wrongType v (.record r.name))

end Record

/-! ## Open records -/

/-- How a record that takes in the settings of another one is decoded. -/
structure OpenRecord (σ : Type) where
  name : String
  initial : σ
  fields : List (Field σ)
  /-- The fields of the other record. -/
  inlined : List (Field σ) := []
  /-- What becomes of entries that are fields of neither. -/
  keep : Option (Dictionary Value → σ → σ) := none

namespace OpenRecord

variable {σ : Type}

/-- What was read so far, and the entries that were put aside. -/
structure Progress (σ : Type) where
  done : σ × List String
  aside : List (String × Value)

/-- Reads one entry of a map, or puts it aside. -/
def readEntry (r : OpenRecord σ) (p : Progress σ) (entry : Value × Value) :
    Decode (Progress σ) := do
  match ← Decode.follow entry.1 with
  | .text key | .scalar _ _ key =>
    match Field.withKey? r.fields key with
    | some f => return { p with done := ← f.readOnce entry.2 p.done }
    | none => return { p with aside := p.aside ++ [(key, ← Decode.settledFor .buffered entry.2)] }
  | v => throw (.wrongType v .fieldName)

/-- Reads the fields of the other record from the entries that were put aside. -/
def readInlined (r : OpenRecord σ) (p : Progress σ) : Decode σ := do
  let done ← p.aside.foldlM (fun done e =>
    match Field.withKey? r.inlined e.1 with
    | some f => f.readOnce e.2 done
    | none => return done) (p.done.1, [])
  return done.1

/-- The entries that are fields of neither record. -/
def others (r : OpenRecord σ) (p : Progress σ) : Decode (Dictionary Value) := do
  let rest := p.aside.filter fun e => (Field.withKey? r.inlined e.1).isNone
  return .ofList (← rest.mapM fun e => do return (e.1, ← Decode.kept e.2))

/-- Decodes an open record. -/
def decode (r : OpenRecord σ) : Decoder σ := fun v => do
  match ← Decode.bare v with
  | .map entries =>
    Decode.within do
      let p ← entries.foldlM r.readEntry ⟨(r.initial, []), []⟩
      let settings ← Decode.readAs .inlined (r.readInlined p)
      match r.keep with
      | some keep => return keep (← r.others p) settings
      | none => return settings
  | v =>
    if ← Decode.isEmpty v then return r.initial else throw (.wrongType v (.record r.name))

end OpenRecord

end AgentConvert

/-! ## Common settings -/

namespace AgentConvert.Decode

/-- A secret, written as a text. -/
def secret : Decoder Secret := fun v => return ⟨← text v⟩

/-- A list of texts. -/
def texts : Decoder (List String) := list text

/-- A map from texts to texts. -/
def labels : Decoder (Dictionary String) := dictionary text

end AgentConvert.Decode
