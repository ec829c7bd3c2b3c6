import ScreenDesign.Proofs.Resanitizing
import ScreenDesign.Proofs.TypedView

/-!
# Saving a design again

A design is loaded from a payload and written back.  Loading takes many spellings of
one design, and writing puts null in place of every number that is not finite.  So a
payload can change when it is saved, but only once (`saved_stable`).

* A value is stored as it is exactly if all numbers in it are finite
  (`stored_eq_self_iff`), and what is stored is such a value (`allFinite_stored`).
* The record of a screen is read back as that screen (`load_toJson`).
* A design that was written is read back as the design with its stored bags
  (`loadAll_dumpAll`).
-/

namespace ScreenDesign

/-- A list is unchanged exactly if each of its items is. -/
theorem map_eq_self_iff {α : Type} {f : α → α} {as : List α} :
    as.map f = as ↔ ∀ a ∈ as, f a = a := by
  simpa using List.map_inj_left (f := f) (g := id) (l := as)

/-! ## Stored values -/

namespace Json

mutual

/-- Whether all numbers in a value are finite. -/
def allFinite : Json → Bool
  | .number n => n.isFinite
  | .list items => allFiniteItems items
  | .object members => allFiniteMembers members
  | _ => true
termination_by structural j => j

/-- Whether all numbers in a list of values are finite. -/
def allFiniteItems : List Json → Bool
  | [] => true
  | j :: js => allFinite j && allFiniteItems js
termination_by structural js => js

/-- Whether all numbers in a bag are finite. -/
def allFiniteMembers : List (String × Json) → Bool
  | [] => true
  | (_, j) :: ms => allFinite j && allFiniteMembers ms
termination_by structural ms => ms

end

mutual

/-- Numbers that are not finite are all that storing changes. -/
theorem stored_eq_self_iff : (j : Json) → (j.stored = j ↔ j.allFinite = true)
  | .null => by simp [stored, allFinite]
  | .bool b => by simp [stored, allFinite]
  | .number n => by
      rw [stored, allFinite]
      cases n.isFinite <;> simp
  | .text s => by simp [stored, allFinite]
  | .list items => by
      simpa [stored, allFinite] using storedItems_eq_self_iff items
  | .object members => by
      simpa [stored, allFinite] using storedMembers_eq_self_iff members

theorem storedItems_eq_self_iff :
    (items : List Json) → (storedItems items = items ↔ allFiniteItems items = true)
  | [] => by simp [storedItems, allFiniteItems]
  | j :: js => by
      simp [storedItems, allFiniteItems, stored_eq_self_iff j, storedItems_eq_self_iff js]

theorem storedMembers_eq_self_iff :
    (members : List (String × Json)) →
      (storedMembers members = members ↔ allFiniteMembers members = true)
  | [] => by simp [storedMembers, allFiniteMembers]
  | (k, j) :: ms => by
      simp [storedMembers, allFiniteMembers, stored_eq_self_iff j, storedMembers_eq_self_iff ms]

end

mutual

/-- What is stored has finite numbers only. -/
theorem allFinite_stored : (j : Json) → j.stored.allFinite = true
  | .null => rfl
  | .bool _ => rfl
  | .number n => by
      rw [stored]
      split
      · rename_i finite
        exact finite
      · rfl
  | .text _ => rfl
  | .list items => by
      rw [stored, allFinite]
      exact allFinite_storedItems items
  | .object members => by
      rw [stored, allFinite]
      exact allFinite_storedMembers members

theorem allFinite_storedItems : (items : List Json) → allFiniteItems (storedItems items) = true
  | [] => rfl
  | j :: js => by
      rw [storedItems, allFiniteItems, allFinite_stored j, allFinite_storedItems js]
      rfl

theorem allFinite_storedMembers :
    (members : List (String × Json)) → allFiniteMembers (storedMembers members) = true
  | [] => rfl
  | (k, j) :: ms => by
      rw [storedMembers, allFiniteMembers, allFinite_stored j, allFinite_storedMembers ms]
      rfl

end

theorem storedMembers_storedMembers (members : List (String × Json)) :
    storedMembers (storedMembers members) = storedMembers members :=
  (storedMembers_eq_self_iff _).mpr (allFinite_storedMembers members)

/-- A type is read from its name. -/
theorem asType_name (t : ComponentType) : asType (.text t.name) = .ok t := by
  rw [asType, show ComponentType.ofJson? (.text t.name) = some t from t.ofName?_name]

/-- A list of records is read record by record. -/
theorem asList_map {α : Type} {read : Json → Checked α} {write : α → Json}
    (h : ∀ a, read (write a) = .ok a) (as : List α) :
    asList read (.list (as.map write)) = .ok as := by
  rw [asList, Checked.all_eq_ok_iff]
  apply List.ext_getElem
  · simp
  · intro i hi hi'
    simp [h, Checked.below]

end Json

/-! ## Records of screens -/

namespace Element

/-- The record of an element is read back as that element. -/
theorem read_toJson (e : Element) : read e.toJson = .ok e := by
  simp [toJson, read, ofMembers, Checked.member, Checked.memberOr, Entries.get?, Json.asText,
    Json.asType_name, Json.int, Json.asWhole, Json.asBag, Checked.below, Checked.pair, Except.map]

/-- An element with its bag as it is stored. -/
def asStored (e : Element) : Element := { e with properties := Json.storedMembers e.properties }

theorem toJson_asStored (e : Element) : e.asStored.toJson = e.toJson.stored := by
  simp [asStored, toJson, Json.stored, Json.storedMembers, Json.int, Number.isFinite]

theorem asStored_asStored (e : Element) : e.asStored.asStored = e.asStored := by
  simp only [asStored, Json.storedMembers_storedMembers]

/-- Whether all numbers in the bag are finite. -/
def isFinite (e : Element) : Bool := Json.allFiniteMembers e.properties

theorem asStored_eq_self_iff (e : Element) : e.asStored = e ↔ e.isFinite = true := by
  rw [isFinite, ← Json.storedMembers_eq_self_iff]
  constructor
  · intro h
    exact congrArg properties h
  · intro h
    rw [asStored, h]

end Element

namespace Screen

/-- The record of a screen is read back as that screen. -/
theorem load_toJson (s : Screen) : load s.toJson = .ok s := by
  simp [load, toJson, read, ofMembers, Checked.member, Checked.memberOr, Entries.get?, Json.asText,
    Json.asList_map Element.read_toJson, Checked.below, Checked.pair, Except.map, Checked.orFail]

/-- A screen with its bags as they are stored. -/
def asStored (s : Screen) : Screen := { s with elements := s.elements.map Element.asStored }

theorem toJson_asStored (s : Screen) : s.asStored.toJson = s.toJson.stored := by
  simp [asStored, toJson, Json.stored, Json.storedMembers, Sanitize.storedItems_eq_map,
    Element.toJson_asStored]

theorem asStored_asStored (s : Screen) : s.asStored.asStored = s.asStored := by
  simp [asStored, Element.asStored_asStored]

/-- Whether all numbers in the bags are finite. -/
def isFinite (s : Screen) : Bool := s.elements.all Element.isFinite

theorem asStored_eq_self_iff (s : Screen) : s.asStored = s ↔ s.isFinite = true := by
  rw [isFinite, List.all_eq_true]
  constructor
  · intro h e he
    have hmap : s.elements.map Element.asStored = s.elements := congrArg elements h
    exact e.asStored_eq_self_iff.mp (map_eq_self_iff.mp hmap e he)
  · intro h
    have hmap : s.elements.map Element.asStored = s.elements :=
      map_eq_self_iff.mpr fun e he => e.asStored_eq_self_iff.mpr (h e he)
    rw [asStored, hmap]

/-! ## Designs -/

theorem dumpAll_eq (screens : List Screen) :
    dumpAll screens = .list (screens.map fun s => s.asStored.toJson) := by
  simp [dumpAll, Json.stored, Sanitize.storedItems_eq_map, toJson_asStored]

theorem dumpAll_asStored (screens : List Screen) :
    dumpAll (screens.map asStored) = dumpAll screens := by
  simp [dumpAll_eq, asStored_asStored]

/-- A design that was written is read back with its bags as they are stored. -/
theorem loadAll_dumpAll (screens : List Screen) :
    loadAll (dumpAll screens) = .ok (screens.map asStored) := by
  rw [dumpAll_eq, loadAll]
  show List.mapM load (screens.map fun s => s.asStored.toJson) = _
  rw [List.mapM_map]
  exact mapM_eq_map fun s _ => load_toJson s.asStored

/-- What a payload becomes when it is loaded and written back. -/
def saved (j : Json) : Except Failure Json := (loadAll j).map dumpAll

/-- Whatever a payload looks like, the design that is loaded from it can be written and
loaded again, with its bags as they are stored, and writing it once more gives the same.
It is loaded as it was exactly if all numbers in its bags are finite. -/
theorem saved_stable {j dumped : Json} (h : saved j = .ok dumped) :
    saved dumped = .ok dumped ∧
      ∃ screens, loadAll j = .ok screens ∧ dumped = dumpAll screens ∧
        loadAll dumped = .ok (screens.map asStored) ∧ dumpAll (screens.map asStored) = dumped ∧
        (loadAll dumped = .ok screens ↔ ∀ s ∈ screens, s.isFinite = true) := by
  obtain ⟨screens, hload, rfl⟩ := map_eq_ok.mp h
  have hagain := loadAll_dumpAll screens
  have hdump := dumpAll_asStored screens
  refine ⟨?_, screens, hload, rfl, hagain, hdump, ?_⟩
  · rw [saved, hagain, Except.map, hdump]
  · rw [hagain, Except.ok.injEq, map_eq_self_iff]
    exact forall₂_congr fun s _ => s.asStored_eq_self_iff

/-- A payload with numbers in other spellings, members that belong to no field, and an
infinity deep in a bag. -/
def laxPayload : Json :=
  .object
    [("version", .int 3),
     ("screens", .list
       [.object
         [("name", .text "Home"), ("id", .text "home"), ("locked", .bool true),
          ("elements", .list
            [.object
              [("id", .text "go"), ("type", .text "button"), ("x", .text " 12.0"),
               ("y", .bool true),
               ("width", .float (.finite false ⟨4638144666238189568, by decide⟩)),
               ("height", .int 48), ("depth", .null),
               ("properties", .object
                 [("text", .text "Go"), ("more", .list [.float (.infinite false)])])]])]])]

/-- What `laxPayload` is saved as. -/
def plainPayload : Json :=
  .list
    [.object
      [("id", .text "home"), ("name", .text "Home"),
       ("elements", .list
         [.object
           [("id", .text "go"), ("type", .text "button"), ("x", .int 12), ("y", .int 1),
            ("width", .int 120), ("height", .int 48),
            ("properties", .object [("text", .text "Go"), ("more", .list [.null])])]])]]

theorem saved_laxPayload :
    saved laxPayload = .ok plainPayload ∧ saved plainPayload = .ok plainPayload ∧
      ∃ screens, loadAll laxPayload = .ok screens ∧ plainPayload = dumpAll screens ∧
        loadAll plainPayload ≠ .ok screens := by
  have h : saved laxPayload = .ok plainPayload := by decide +kernel
  obtain ⟨hagain, screens, hload, hdump, -, -, hsame⟩ := saved_stable h
  refine ⟨h, hagain, screens, hload, hdump, fun heq => ?_⟩
  have hfinite : ((loadAll laxPayload).map fun screens => screens.all isFinite) = .ok false := by
    decide +kernel
  rw [hload] at hfinite
  have hall : screens.all isFinite = true := List.all_eq_true.mpr (hsame.mp heq)
  rw [Except.map, hall] at hfinite
  cases hfinite

end Screen

end ScreenDesign
