/-!
# Entries in order of arrival

A finite map from texts to values that remembers in which order its keys came.
Inserting under a key that is present replaces the value and leaves the key where
it is.  Inserting under a new key puts it at the end.

The map is a list of pairs.  `get?` reads the first pair of a key, and `insert`
writes to that pair, so a list with a repeated key behaves as the map of its first
pairs.  `ofPairs` inserts pair after pair, and its keys do not repeat.
-/

namespace ScreenDesign

/-- Keys with their values, in order of arrival. -/
abbrev Entries (β : Type) := List (String × β)

namespace Entries

variable {β : Type}

/-- The value of a key. -/
def get? : Entries β → String → Option β
  | [], _ => none
  | (k, v) :: es, key => if k = key then some v else get? es key
termination_by structural es => es

/-- Whether a key is present. -/
def has (es : Entries β) (key : String) : Bool := (es.get? key).isSome

/-- The entries with a value written under a key. -/
def insert : Entries β → String → β → Entries β
  | [], key, x => [(key, x)]
  | (k, v) :: es, key, x =>
      if k = key then (k, x) :: es else (k, v) :: insert es key x
termination_by structural es => es

/-- The entries without the first pair of a key. -/
def erase : Entries β → String → Entries β
  | [], _ => []
  | (k, v) :: es, key => if k = key then es else (k, v) :: erase es key
termination_by structural es => es

/-- The keys in order. -/
def keys (es : Entries β) : List String := es.map Prod.fst

/-- The values in order. -/
def values (es : Entries β) : List β := es.map Prod.snd

/-- All pairs of a list inserted into the entries, one after the other. -/
def insertAll (es : Entries β) (pairs : List (String × β)) : Entries β :=
  pairs.foldl (fun acc p => insert acc p.1 p.2) es

/-- The entries that result from inserting the pairs one after the other. -/
def ofPairs (pairs : List (String × β)) : Entries β := insertAll [] pairs

/-! ## Reading after writing -/

@[simp] theorem get?_nil (key : String) : get? ([] : Entries β) key = none := rfl

@[simp] theorem get?_insert_self (es : Entries β) (key : String) (x : β) :
    (es.insert key x).get? key = some x := by
  induction es with
  | nil => simp [insert, get?]
  | cons p es ih =>
      obtain ⟨k, v⟩ := p
      by_cases h : k = key <;> simp [insert, get?, h, ih]

theorem get?_insert_of_ne (es : Entries β) {key other : String} (x : β) (h : key ≠ other) :
    (es.insert key x).get? other = es.get? other := by
  induction es with
  | nil => simp [insert, get?, h]
  | cons p es ih =>
      obtain ⟨k, v⟩ := p
      by_cases hk : k = key
      · subst hk
        simp [insert, get?, h]
      · simp [insert, get?, hk, ih]

theorem has_iff_mem_keys (es : Entries β) (key : String) :
    es.has key = true ↔ key ∈ es.keys := by
  induction es with
  | nil => simp [has, keys]
  | cons p es ih =>
      obtain ⟨k, v⟩ := p
      simp only [has, keys, get?, List.map_cons, List.mem_cons] at ih ⊢
      by_cases hk : k = key
      · simp [hk]
      · simp [hk, ih, Ne.symm hk]

/-- Writing under a key that is present keeps the keys, and writing under a new
one puts it at the end. -/
theorem keys_insert (es : Entries β) (key : String) (x : β) :
    (es.insert key x).keys = if key ∈ es.keys then es.keys else es.keys ++ [key] := by
  induction es with
  | nil => simp [insert, keys]
  | cons p es ih =>
      obtain ⟨k, v⟩ := p
      simp only [keys] at ih ⊢
      by_cases hk : k = key
      · simp [insert, hk]
      · simp only [insert, hk, ↓reduceIte, List.map_cons, List.mem_cons, Ne.symm hk, false_or, ih]
        split <;> simp [*]

end Entries

end ScreenDesign
