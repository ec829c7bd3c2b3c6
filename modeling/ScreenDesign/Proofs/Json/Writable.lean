import ScreenDesign.Proofs.Json.Brevity

/-!
# Values that text can hold

A value is *writable* if its objects have distinct keys and its whole numbers are brief.  Whatever
is read from a text is writable (`isWritable_of_parse`).
-/

namespace ScreenDesign.Json

mutual

/-- Whether the keys of objects are distinct and whole numbers have few enough digits. -/
def isWritable : Json → Bool
  | .number n => n.isBrief
  | .list items => itemsWritable items
  | .object members => decide (Entries.keys members).Nodup && membersWritable members
  | _ => true
termination_by structural j => j

/-- Whether all items of a list are writable. -/
def itemsWritable : List Json → Bool
  | [] => true
  | j :: js => isWritable j && itemsWritable js
termination_by structural js => js

/-- Whether the values of all members are writable. -/
def membersWritable : List (String × Json) → Bool
  | [] => true
  | (_, j) :: ms => isWritable j && membersWritable ms
termination_by structural ms => ms

end

theorem isWritable_list_iff {js : List Json} :
    (Json.list js).isWritable = true ↔ ∀ j ∈ js, j.isWritable = true := by
  rw [isWritable]
  induction js with
  | nil => simp [itemsWritable]
  | cons j js ih => simp [itemsWritable, ih]

theorem isWritable_object_iff {ms : List (String × Json)} :
    (Json.object ms).isWritable = true ↔
      (Entries.keys ms).Nodup ∧ ∀ m ∈ ms, m.2.isWritable = true := by
  have hmembers : membersWritable ms = true ↔ ∀ m ∈ ms, m.2.isWritable = true := by
    induction ms with
    | nil => simp [membersWritable]
    | cons m ms ih => simp [membersWritable, ih]
  rw [isWritable, Bool.and_eq_true, decide_eq_true_eq, hmembers]

theorem inherited_isWritable : Inherited (·.isWritable = true) where
  word := by decide
  number hn := hn
  text _ := rfl
  list hjs := isWritable_list_iff.mpr hjs
  object hkeys hms := isWritable_object_iff.mpr ⟨hkeys, hms⟩

/-- A value that a text writes is writable. -/
theorem isWritable_of_parse {s : String} {j : Json} (h : parse s = .ok j) : j.isWritable = true :=
  inherited_isWritable.of_parse h

end ScreenDesign.Json
