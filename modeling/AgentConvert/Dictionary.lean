/-!
# Dictionaries

Maps from texts that list their entries in ascending order of the keys. Inserting keeps the order
(`Dictionary.insert`), and the entry of an inserted key is the inserted value (`get?_insert`). The
entries are the values at their keys (`mem_entries_iff`).
Entries that are in this order already are kept as they are (`entries_ofList`).
-/

namespace AgentConvert

/-- A map from texts, as its entries in ascending order of their keys. -/
structure Dictionary (α : Type) where
  entries : List (String × α)
  ascending : entries.Pairwise fun a b => a.1 < b.1

namespace Dictionary

variable {α β : Type}

/-- The map without entries. -/
def empty : Dictionary α := ⟨[], .nil⟩

instance : Inhabited (Dictionary α) := ⟨empty⟩

/-- `entries` with `value` at `key`. -/
def insertEntry (key : String) (value : α) : List (String × α) → List (String × α)
  | [] => [(key, value)]
  | entry :: rest =>
    if key < entry.1 then (key, value) :: entry :: rest
    else if entry.1 < key then entry :: insertEntry key value rest
    else (key, value) :: rest

theorem mem_insertEntry {key : String} {value : α} {entries : List (String × α)}
    {e : String × α} (h : e ∈ insertEntry key value entries) : e = (key, value) ∨ e ∈ entries := by
  induction entries with
  | nil => simp_all [insertEntry]
  | cons entry rest ih =>
    unfold insertEntry at h
    split at h
    · simpa using h
    · split at h
      · rcases List.mem_cons.1 h with h | h
        · exact .inr (h ▸ List.mem_cons_self ..)
        · exact (ih h).imp id (List.mem_cons_of_mem _)
      · rcases List.mem_cons.1 h with h | h
        · exact .inl h
        · exact .inr (List.mem_cons_of_mem _ h)

theorem eq_of_not_lt {a b : String} (h₁ : ¬ a < b) (h₂ : ¬ b < a) : a = b :=
  String.le_antisymm (String.not_lt.1 h₂) (String.not_lt.1 h₁)

theorem ascending_insertEntry (key : String) (value : α) {entries : List (String × α)}
    (h : entries.Pairwise fun a b => a.1 < b.1) :
    (insertEntry key value entries).Pairwise fun a b => a.1 < b.1 := by
  induction entries with
  | nil => simp [insertEntry]
  | cons entry rest ih =>
    obtain ⟨hentry, hrest⟩ := List.pairwise_cons.1 h
    unfold insertEntry
    split
    · rename_i hlt
      refine List.pairwise_cons.2 ⟨fun e he => ?_, h⟩
      rcases List.mem_cons.1 he with rfl | he
      · exact hlt
      · exact String.lt_trans hlt (hentry e he)
    · rename_i hge
      split
      · rename_i hlt
        refine List.pairwise_cons.2 ⟨fun e he => ?_, ih hrest⟩
        rcases mem_insertEntry he with rfl | he
        · exact hlt
        · exact hentry e he
      · rename_i hge'
        rw [eq_of_not_lt hge' hge] at hentry
        exact List.pairwise_cons.2 ⟨hentry, hrest⟩

/-- The map with `value` at `key`. -/
def insert (d : Dictionary α) (key : String) (value : α) : Dictionary α :=
  ⟨insertEntry key value d.entries, ascending_insertEntry key value d.ascending⟩

/-- The value at `key`. -/
def get? (d : Dictionary α) (key : String) : Option α :=
  (d.entries.find? fun e => e.1 == key).map Prod.snd

/-- The map of `entries`; of two with one key, the later one counts. -/
def ofList (entries : List (String × α)) : Dictionary α :=
  entries.foldl (fun d e => d.insert e.1 e.2) empty

/-- The keys in ascending order. -/
def keys (d : Dictionary α) : List String := d.entries.map Prod.fst

/-- Whether there are no entries. -/
def isEmpty (d : Dictionary α) : Bool := d.entries.isEmpty

/-- The map with each value changed by `f`. -/
def map (f : α → β) (d : Dictionary α) : Dictionary β :=
  ⟨d.entries.map fun e => (e.1, f e.2), List.pairwise_map.2 d.ascending⟩

theorem find?_insertEntry (key k : String) (value : α) (entries : List (String × α)) :
    (insertEntry key value entries).find? (fun e => e.1 == k) =
      if key = k then some (key, value) else entries.find? fun e => e.1 == k := by
  induction entries with
  | nil => by_cases h : key = k <;> simp [insertEntry, h]
  | cons entry rest ih =>
    unfold insertEntry
    split
    · by_cases h : key = k <;> simp [h]
    · rename_i hge
      split
      · rename_i hlt
        have hne : entry.1 ≠ key := fun e => String.lt_irrefl _ (e ▸ hlt)
        by_cases h : key = k
        · subst h
          simp only [List.find?_cons, beq_eq_false_iff_ne.2 hne, ih, ↓reduceIte]
        · simp only [List.find?_cons, ih, h, ↓reduceIte]
      · rename_i hge'
        have heq := eq_of_not_lt hge' hge
        by_cases h : key = k
        · simp [h]
        · have hne : (entry.1 == k) = false := beq_eq_false_iff_ne.2 (heq ▸ h)
          simp [h, hne]

@[simp]
theorem get?_insert (d : Dictionary α) (key k : String) (value : α) :
    (d.insert key value).get? k = if key = k then some value else d.get? k := by
  simp only [get?, insert, find?_insertEntry]
  split <;> simp

/-- Of entries with ascending keys, the first one at a key is the only one. -/
theorem find?_eq_some_iff {entries : List (String × α)}
    (h : entries.Pairwise fun a b => a.1 < b.1) {key : String} {value : α} :
    entries.find? (fun e => e.1 == key) = some (key, value) ↔ (key, value) ∈ entries := by
  induction entries with
  | nil => simp
  | cons e rest ih =>
    obtain ⟨he, hrest⟩ := List.pairwise_cons.1 h
    by_cases hkey : e.1 = key
    · have hlater : (key, value) ∉ rest := fun hmem =>
        String.lt_irrefl key (hkey ▸ he (key, value) hmem)
      simp [hkey, hlater, Prod.ext_iff, eq_comm]
    · have hne : (key, value) ≠ e := fun heq => hkey (congrArg Prod.fst heq).symm
      simp [hkey, hne, ih hrest]

/-- The entries are the values at their keys. -/
theorem mem_entries_iff {d : Dictionary α} {key : String} {value : α} :
    (key, value) ∈ d.entries ↔ d.get? key = some value := by
  rw [← find?_eq_some_iff d.ascending, get?, Option.map_eq_some_iff]
  constructor
  · exact fun h => ⟨(key, value), h, rfl⟩
  · rintro ⟨e, h, rfl⟩
    have hkey : e.1 = key := by simpa using List.find?_some h
    rw [h, ← hkey]

/-- An entry behind all others is put at the end. -/
theorem insertEntry_of_lt {key : String} {value : α} {entries : List (String × α)}
    (h : ∀ e ∈ entries, e.1 < key) : insertEntry key value entries = entries ++ [(key, value)] := by
  induction entries with
  | nil => rfl
  | cons e rest ih =>
    obtain ⟨he, hrest⟩ := List.forall_mem_cons.1 h
    rw [insertEntry, if_neg (String.lt_asymm he), if_pos he, ih hrest, List.cons_append]

theorem entries_foldl_insert {entries : List (String × α)} {d : Dictionary α}
    (h : (d.entries ++ entries).Pairwise fun a b => a.1 < b.1) :
    (entries.foldl (fun d e => d.insert e.1 e.2) d).entries = d.entries ++ entries := by
  induction entries generalizing d with
  | nil => simp
  | cons e rest ih =>
    have hlast : (d.insert e.1 e.2).entries = d.entries ++ [e] :=
      insertEntry_of_lt fun e' he' => (List.pairwise_append.1 h).2.2 e' he' e List.mem_cons_self
    have happend : d.entries ++ e :: rest = (d.insert e.1 e.2).entries ++ rest := by
      rw [hlast, List.append_assoc, List.singleton_append]
    rw [happend] at h ⊢
    exact ih h

/-- Entries in ascending order are kept as they are. -/
theorem entries_ofList {entries : List (String × α)} (h : entries.Pairwise fun a b => a.1 < b.1) :
    (ofList entries).entries = entries :=
  entries_foldl_insert (d := empty) h

theorem mem_foldl_insert {entries : List (String × α)} {d : Dictionary α} {e : String × α}
    (h : e ∈ (entries.foldl (fun d e => d.insert e.1 e.2) d).entries) :
    e ∈ d.entries ∨ e ∈ entries := by
  induction entries generalizing d with
  | nil => exact .inl h
  | cons e' rest ih =>
    rcases ih h with h | h
    · rcases mem_insertEntry h with rfl | h
      · exact .inr List.mem_cons_self
      · exact .inl h
    · exact .inr (List.mem_cons_of_mem _ h)

theorem mem_of_mem_ofList {entries : List (String × α)} {e : String × α}
    (h : e ∈ (ofList entries).entries) : e ∈ entries :=
  (mem_foldl_insert h).resolve_left List.not_mem_nil

end Dictionary

end AgentConvert
