import Mathlib.Data.List.Nodup
import ScreenDesign.Entries

/-!
# Entries whose keys do not repeat

Entries without a repeated key are determined by their keys and their values.
Two facts about writing follow.  Writing to the entries what they already hold
under their first keys gives the pairs that were written, and writing new keys
puts their pairs at the end.  Together, `insertAll_of_prefix` says that entries are
rebuilt by writing all their pairs over any entries with the same first keys.
-/

namespace ScreenDesign.Entries

variable {β : Type}

/-! ## Keys -/

@[simp] theorem keys_nil : keys ([] : Entries β) = [] := rfl

@[simp] theorem keys_cons (p : String × β) (es : Entries β) :
    keys (p :: es) = p.1 :: keys es := rfl

@[simp] theorem keys_append (es fs : Entries β) : keys (es ++ fs) = keys es ++ keys fs :=
  List.map_append

theorem key_mem_keys {es : Entries β} {p : String × β} (h : p ∈ es) : p.1 ∈ keys es :=
  List.mem_map_of_mem h

theorem nodup_keys_insert {es : Entries β} (h : (keys es).Nodup) (key : String) (x : β) :
    (keys (insert es key x)).Nodup := by
  rw [keys_insert]
  split
  · exact h
  case isFalse new =>
      rw [List.nodup_append]
      refine ⟨h, List.nodup_singleton key, ?_⟩
      intro a ha b hb
      rw [List.mem_singleton] at hb
      subst hb
      intro same
      exact new (same ▸ ha)

/-- Writing only adds keys at the end. -/
theorem prefix_keys_insert {ks : List String} {es : Entries β} (h : ks <+: keys es) (key : String)
    (x : β) : ks <+: keys (insert es key x) := by
  rw [keys_insert]
  split
  · exact h
  · exact h.trans (List.prefix_append _ _)

/-- A pair of the entries after writing was there before or is the one written. -/
theorem mem_insert {es : Entries β} {key : String} {x : β} {p : String × β}
    (h : p ∈ insert es key x) : p = (key, x) ∨ p ∈ es := by
  induction es with
  | nil => exact Or.inl (List.mem_singleton.mp h)
  | cons q es ih =>
      obtain ⟨k, v⟩ := q
      rw [insert] at h
      split at h
      case isTrue same =>
          rcases List.mem_cons.mp h with first | later
          · exact Or.inl (same ▸ first)
          · exact Or.inr (List.mem_cons_of_mem _ later)
      case isFalse =>
          rcases List.mem_cons.mp h with first | later
          · exact Or.inr (first ▸ List.mem_cons_self)
          · rcases ih later with written | old
            · exact Or.inl written
            · exact Or.inr (List.mem_cons_of_mem _ old)

/-- Writing pair after pair keeps the keys distinct. -/
theorem nodup_keys_insertAll {es : Entries β} (h : (keys es).Nodup) (pairs : List (String × β)) :
    (keys (insertAll es pairs)).Nodup := by
  induction pairs generalizing es with
  | nil => exact h
  | cons p pairs ih => exact ih (nodup_keys_insert h p.1 p.2)

/-- A pair of the entries after writing was there before or is one of those written. -/
theorem mem_insertAll {es : Entries β} {pairs : List (String × β)} {p : String × β}
    (h : p ∈ insertAll es pairs) : p ∈ pairs ∨ p ∈ es := by
  induction pairs generalizing es with
  | nil => exact .inr h
  | cons q pairs ih =>
      rcases ih h with later | first
      · exact .inl (List.mem_cons_of_mem q later)
      · rcases mem_insert first with rfl | old
        · exact .inl List.mem_cons_self
        · exact .inr old

/-! ## Reading -/

theorem get?_cons (p : String × β) (es : Entries β) (key : String) :
    get? (p :: es) key = if p.1 = key then some p.2 else get? es key := rfl

/-- Entries at the end are read where there are none in front. -/
theorem get?_append (es fs : Entries β) (key : String) :
    get? (es ++ fs) key = (get? es key).or (get? fs key) := by
  induction es with
  | nil => rfl
  | cons p es ih =>
      rw [List.cons_append, get?_cons, get?_cons, ih]
      split <;> rfl

/-- With distinct keys, each pair is what its key reads. -/
theorem get?_of_mem {es : Entries β} (h : (keys es).Nodup) {p : String × β} (hp : p ∈ es) :
    get? es p.1 = some p.2 := by
  induction es with
  | nil => cases hp
  | cons q es ih =>
      obtain ⟨k, v⟩ := q
      rw [keys_cons, List.nodup_cons] at h
      rcases List.mem_cons.mp hp with first | later
      · rw [first, get?, if_pos rfl]
      · have present : p.1 ∈ keys es := key_mem_keys later
        have other : k ≠ p.1 := fun same => h.1 (same ▸ present)
        rw [get?, if_neg other]
        exact ih h.2 later

theorem mem_of_get? {es : Entries β} {key : String} {x : β} (h : get? es key = some x) :
    (key, x) ∈ es := by
  induction es with
  | nil => cases h
  | cons q es ih =>
      obtain ⟨k, v⟩ := q
      rw [get?] at h
      split at h
      case isTrue same =>
          cases h
          rw [same]
          exact List.mem_cons_self
      case isFalse => exact List.mem_cons_of_mem _ (ih h)

theorem exists_get?_of_mem_keys {es : Entries β} {key : String} (h : key ∈ keys es) :
    ∃ x, get? es key = some x :=
  Option.isSome_iff_exists.mp ((has_iff_mem_keys es key).mpr h)

/-! ## Rebuilding entries -/

/-- Writing under a key of the later part leaves the earlier part alone. -/
theorem insert_append_of_notMem {es : Entries β} {key : String} (h : key ∉ keys es)
    (fs : Entries β) (x : β) : insert (es ++ fs) key x = es ++ insert fs key x := by
  induction es with
  | nil => rfl
  | cons q es ih =>
      obtain ⟨k, v⟩ := q
      rw [keys_cons, List.mem_cons, not_or] at h
      rw [List.cons_append, insert, if_neg (Ne.symm h.1), ih h.2, List.cons_append]

/-- Writing new keys puts their pairs at the end. -/
theorem insertAll_of_new (fs : Entries β) :
    ∀ es : Entries β, (keys (es ++ fs)).Nodup → insertAll es fs = es ++ fs := by
  induction fs with
  | nil => intro es _; rw [List.append_nil]; rfl
  | cons p fs ih =>
      intro es h
      have assoc : es ++ p :: fs = (es ++ [p]) ++ fs := by simp
      have new : p.1 ∉ keys es := by
        rw [keys_append, keys_cons, List.nodup_append] at h
        exact fun old => h.2.2 p.1 old p.1 List.mem_cons_self rfl
      have step : insert es p.1 p.2 = es ++ [p] := by
        have := insert_append_of_notMem new [] p.2
        rwa [List.append_nil] at this
      calc insertAll es (p :: fs) = insertAll (insert es p.1 p.2) fs := rfl
        _ = insertAll (es ++ [p]) fs := by rw [step]
        _ = (es ++ [p]) ++ fs := ih _ (assoc ▸ h)
        _ = es ++ p :: fs := assoc.symm

/-- Writing over entries with the same keys gives the pairs that were written.  The
part `done` in front has been written already. -/
theorem insertAll_of_keys_eq (fs : Entries β) :
    ∀ done es : Entries β, keys es = keys fs → (keys (done ++ es)).Nodup →
      insertAll (done ++ es) fs = done ++ fs := by
  induction fs with
  | nil =>
      intro done es same _
      rw [List.map_eq_nil_iff.mp same]
      rfl
  | cons p fs ih =>
      intro done es same h
      cases es with
      | nil => cases same
      | cons q es =>
          obtain ⟨k, v⟩ := q
          rw [keys_cons, keys_cons, List.cons.injEq] at same
          obtain ⟨rfl, same⟩ := same
          have new : p.1 ∉ keys done := by
            rw [keys_append, keys_cons, List.nodup_append] at h
            exact fun old => h.2.2 p.1 old p.1 List.mem_cons_self rfl
          have step : insert (done ++ (p.1, v) :: es) p.1 p.2 = (done ++ [p]) ++ es := by
            rw [insert_append_of_notMem new, insert, if_pos rfl]
            simp
          have distinct : (keys ((done ++ [p]) ++ es)).Nodup := by
            simpa [keys_append] using h
          calc insertAll (done ++ (p.1, v) :: es) (p :: fs)
              = insertAll (insert (done ++ (p.1, v) :: es) p.1 p.2) fs := rfl
            _ = insertAll ((done ++ [p]) ++ es) fs := by rw [step]
            _ = (done ++ [p]) ++ fs := ih _ es same distinct
            _ = done ++ p :: fs := by simp

/-- Entries with distinct keys are rebuilt by writing all their pairs over entries
that have their first keys. -/
theorem insertAll_of_prefix {es fs : Entries β} (first : keys es <+: keys fs)
    (distinct : (keys fs).Nodup) : insertAll es fs = fs := by
  obtain ⟨rest, same⟩ := first
  obtain ⟨front, extra, rfl, hfront, -⟩ := List.map_eq_append_iff.mp same.symm
  have distinctFront : (keys es).Nodup := by
    rw [keys_append, List.nodup_append] at distinct
    exact hfront ▸ distinct.1
  calc insertAll es (front ++ extra) = insertAll (insertAll es front) extra := List.foldl_append
    _ = insertAll front extra := by
        rw [← List.nil_append es, insertAll_of_keys_eq front [] es hfront.symm distinctFront]
        rfl
    _ = front ++ extra := insertAll_of_new extra front distinct

/-- Some pairs of entries with distinct keys are their keys with what these read. -/
theorem filterMap_get?_of_subset {es fs : Entries β} (distinct : (keys es).Nodup)
    (subset : fs ⊆ es) :
    (keys fs).filterMap (fun key => (get? es key).map fun x => (key, x)) = fs := by
  have each : ∀ p ∈ fs, (get? es p.1).map (fun x => (p.1, x)) = some p := by
    intro p hp
    rw [get?_of_mem distinct (subset hp)]
    rfl
  rw [keys, List.filterMap_map]
  exact (List.filterMap_congr each).trans List.filterMap_some

end ScreenDesign.Entries
