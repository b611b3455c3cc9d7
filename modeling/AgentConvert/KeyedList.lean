/-!
# Keyed lists

Maps from texts that list their entries in the order in which the keys were first inserted.
Inserting at a key that is there changes its value and keeps its place (`map_fst_insertEntry`),
and the value at an inserted key is the inserted one (`get?_insert`).
-/

namespace AgentConvert

/-- A map from texts, as its entries in order of insertion. -/
structure KeyedList (α : Type) where
  entries : List (String × α)
  nodup : (entries.map Prod.fst).Nodup

namespace KeyedList

variable {α : Type}

/-- The map without entries. -/
def empty : KeyedList α := ⟨[], .nil⟩

instance : Inhabited (KeyedList α) := ⟨empty⟩

/-- The keys in order. -/
def keys (l : KeyedList α) : List String := l.entries.map Prod.fst

/-- The value at `key`. -/
def get? (l : KeyedList α) (key : String) : Option α :=
  (l.entries.find? fun e => e.1 == key).map Prod.snd

/-- Whether there is a value at `key`. -/
def contains (l : KeyedList α) (key : String) : Bool := l.keys.contains key

/-- `entries` with `value` at `key`. -/
def insertEntry (key : String) (value : α) : List (String × α) → List (String × α)
  | [] => [(key, value)]
  | e :: rest => if e.1 = key then (key, value) :: rest else e :: insertEntry key value rest

theorem map_fst_insertEntry (key : String) (value : α) (entries : List (String × α)) :
    (insertEntry key value entries).map Prod.fst =
      if key ∈ entries.map Prod.fst then entries.map Prod.fst
      else entries.map Prod.fst ++ [key] := by
  induction entries with
  | nil => simp [insertEntry]
  | cons e rest ih =>
    by_cases h : e.1 = key
    · simp [insertEntry, h]
    · have h' : ¬ key = e.1 := fun k => h k.symm
      simp only [insertEntry, h, ↓reduceIte, List.map_cons, ih, List.mem_cons, h', false_or,
        List.cons_append]
      split <;> rfl

theorem nodup_insertEntry (key : String) (value : α) {entries : List (String × α)}
    (h : (entries.map Prod.fst).Nodup) :
    ((insertEntry key value entries).map Prod.fst).Nodup := by
  rw [map_fst_insertEntry]
  split
  · exact h
  · rename_i hk
    rw [List.nodup_append]
    refine ⟨h, by simp, ?_⟩
    intro a ha b hb
    rw [List.mem_singleton] at hb
    exact fun e => hk (hb ▸ e ▸ ha)

/-- The map with `value` at `key`. -/
def insert (l : KeyedList α) (key : String) (value : α) : KeyedList α :=
  ⟨insertEntry key value l.entries, nodup_insertEntry key value l.nodup⟩

theorem find?_insertEntry (key k : String) (value : α) (entries : List (String × α)) :
    (insertEntry key value entries).find? (fun e => e.1 == k) =
      if key = k then some (key, value) else entries.find? fun e => e.1 == k := by
  induction entries with
  | nil => by_cases h : key = k <;> simp [insertEntry, h]
  | cons e rest ih =>
    unfold insertEntry
    split
    · rename_i he
      by_cases h : key = k <;> simp [h, he]
    · rename_i he
      by_cases h : key = k
      · subst h
        simp only [List.find?_cons, beq_eq_false_iff_ne.2 he, ih, ↓reduceIte]
      · simp only [List.find?_cons, ih, h, ↓reduceIte]

@[simp]
theorem get?_insert (l : KeyedList α) (key k : String) (value : α) :
    (l.insert key value).get? k = if key = k then some value else l.get? k := by
  simp only [get?, insert, find?_insertEntry]
  split <;> simp

/-- The map of `entries`; of two with one key, the later value takes the earlier place. -/
def ofList (entries : List (String × α)) : KeyedList α :=
  entries.foldl (fun l e => l.insert e.1 e.2) empty

end KeyedList

end AgentConvert
