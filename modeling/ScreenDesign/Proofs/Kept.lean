import ScreenDesign.Proofs.Json.Brevity
import ScreenDesign.Proofs.Json.Roundtrip
import ScreenDesign.Proofs.Saving

/-!
# Designs that their text keeps

Text keeps a value whose numbers are brief and are numbers, and whose keys do not
repeat.  A coerced bag is such a value if it was made of a brief one
(`membersBrief_coerce`): it is settled, so its keys do not repeat and its values are
simple, and what a kind takes from a brief value is brief (`isBrief_of_take?`).

So the design that is made of a batch is kept by its text
(`isKept_dumpAll_of_stable`).  The places and sizes in it are small, because they lie on
the canvas.
-/

namespace ScreenDesign

/-! ## Bags -/

namespace Json

/-- A simple brief value is kept by its text. -/
theorem isKept_of_isScalar {j : Json} (scalar : j.isScalar = true) (brief : j.isBrief = true) :
    j.isKept = true := by
  cases j with
  | number n => exact Number.isKept_of_isBrief brief scalar
  | text s => rfl
  | bool b => rfl
  | _ => cases scalar

theorem isBrief_of_finiteNumber? {j : Json} {n : Number} (brief : j.isBrief = true)
    (h : j.finiteNumber? = some n) : n.isBrief = true := by
  cases j with
  | number m =>
      rw [finiteNumber?] at h
      split at h
      · cases h
        exact brief
      · cases h
  | text s =>
      rw [finiteNumber?] at h
      split at h
      · split at h
        · cases h
          rfl
        · cases h
      · cases h
  | _ => cases h

end Json

/-- What a kind takes from a brief value is brief. -/
theorem FieldKind.isBrief_of_take? {kind : FieldKind} {j : Json} {v : FieldValue}
    (brief : j.isBrief = true) (h : kind.take? j = some v) : v.toJson.isBrief = true := by
  cases kind with
  | text =>
      obtain ⟨s, -, rfl⟩ := Option.map_eq_some_iff.mp h
      rfl
  | number =>
      obtain ⟨n, hn, rfl⟩ := Option.map_eq_some_iff.mp h
      obtain ⟨m, hm, rfl⟩ := Option.map_eq_some_iff.mp hn
      exact Number.isBrief_settle (Json.isBrief_of_finiteNumber? brief hm)
  | boolean =>
      obtain ⟨b, -, rfl⟩ := Option.map_eq_some_iff.mp h
      rfl
  | structured =>
      obtain ⟨s, -, rfl⟩ := Option.map_eq_some_iff.mp h
      rfl

namespace ComponentType

variable {t : ComponentType} {bag : Bag}

theorem isBrief_of_judge {key : String} {j k : Json} (brief : j.isBrief = true)
    (h : t.judge key j = .keep k) : k.isBrief = true := by
  rcases judge_eq_keep h with ⟨-, -, rfl⟩ | ⟨kind, v, -, taken, rfl⟩
  · exact brief
  · exact FieldKind.isBrief_of_take? brief taken

theorem membersBrief_defaults (t : ComponentType) : Json.membersBrief t.defaults = true := by
  cases t <;> decide +kernel

theorem membersBrief_mergeMember {m : String × Json} (hbag : Json.membersBrief bag = true)
    (hm : m.2.isBrief = true) : Json.membersBrief (t.mergeMember bag m) = true := by
  rw [mergeMember]
  split
  case h_1 value kept =>
    rw [Json.membersBrief_iff] at hbag ⊢
    intro p hp
    rcases Entries.mem_insert hp with rfl | hp
    · exact isBrief_of_judge hm kept
    · exact hbag p hp
  case h_2 => exact hbag

/-- A bag that is coerced from a brief value is brief. -/
theorem membersBrief_coerce (t : ComponentType) {j : Json} (h : j.isBrief = true) :
    Json.membersBrief (t.coerce j) = true := by
  have hmerge (ms : List (String × Json)) (hms : ∀ m ∈ ms, m.2.isBrief = true) (bag : Bag)
      (hbag : Json.membersBrief bag = true) :
      Json.membersBrief (ms.foldl t.mergeMember bag) = true := by
    induction ms generalizing bag with
    | nil => exact hbag
    | cons m ms ih =>
        rw [List.forall_mem_cons] at hms
        exact ih hms.2 _ (membersBrief_mergeMember hbag hms.1)
  cases j with
  | object members => exact hmerge members (Json.membersBrief_iff.mp h) _ t.membersBrief_defaults
  | _ => exact t.membersBrief_defaults

/-- A settled bag of brief values is kept by its text. -/
theorem Settled.isKept (h : t.Settled bag) (brief : Json.membersBrief bag = true) :
    (Json.object bag).isKept = true := by
  refine Json.isKept_object_iff.mpr ⟨h.distinct, fun m hm => ?_⟩
  exact Json.isKept_of_isScalar (isScalar_of_judge (h.kept m hm))
    (Json.membersBrief_iff.mp brief m hm)

end ComponentType

/-! ## Records -/

/-- A whole number on the canvas is kept by its text. -/
theorem Json.isKept_int {n : Int} (hlow : 0 ≤ n) (hhigh : n ≤ 1000) : (int n).isKept = true := by
  have hlt : n.natAbs < Nat.pow 2 53 := lt_of_le_of_lt (by omega : n.natAbs ≤ 1000) (by decide)
  exact decide_eq_true (Numeral.length_toDigits_of_lt_overflow (Binary64.lt_overflow hlt))

/-- The record of a stable element with a brief bag is kept by its text. -/
theorem Element.Stable.isKept_toJson {e : Element} (h : e.Stable)
    (brief : Json.membersBrief e.properties = true) : e.toJson.isKept = true := by
  obtain ⟨⟨⟨hx, hwidth, hright⟩, ⟨hy, hheight, hbottom⟩, -⟩, settled⟩ := h
  have hsize : (canvas.width : Int) ≤ 1000 ∧ (canvas.height : Int) ≤ 1000 := by decide
  have hfloor : (0 : Int) ≤ e.type.floor.width ∧ (0 : Int) ≤ e.type.floor.height :=
    ⟨Int.natCast_nonneg _, Int.natCast_nonneg _⟩
  have kx : (Json.int e.x).isKept = true := Json.isKept_int hx (by omega)
  have ky : (Json.int e.y).isKept = true := Json.isKept_int hy (by omega)
  have kwidth : (Json.int e.width).isKept = true := Json.isKept_int (by omega) (by omega)
  have kheight : (Json.int e.height).isKept = true := Json.isKept_int (by omega) (by omega)
  have kbag := settled.isKept brief
  have hkeys : (["id", "type", "x", "y", "width", "height", "properties"] : List String).Nodup := by
    decide
  rw [toJson, Json.isKept_object_iff]
  refine ⟨hkeys, ?_⟩
  simp [kx, ky, kwidth, kheight, kbag]

/-- The design with one screen of stable elements with brief bags is kept by its text. -/
theorem Screen.isKept_dumpAll_of_stable {s : Screen}
    (h : ∀ e ∈ s.elements, e.Stable ∧ Json.membersBrief e.properties = true) :
    (dumpAll [s]).isKept = true := by
  have hstored : s.asStored = s := by
    rw [asStored, map_eq_self_iff.mpr]
    intro e he
    rw [Element.asStored, (h e he).1.settled.stored_eq]
  have hrecords : (Json.list (s.elements.map Element.toJson)).isKept = true := by
    rw [Json.isKept_list_iff, List.forall_mem_map]
    intro e he
    exact (h e he).1.isKept_toJson (h e he).2
  have hkeys : (["id", "name", "elements"] : List String).Nodup := by decide
  have hscreen : s.toJson.isKept = true := by
    rw [toJson, Json.isKept_object_iff]
    refine ⟨hkeys, ?_⟩
    simp [hrecords]
  rw [dumpAll_eq, List.map_singleton, hstored, Json.isKept_list_iff]
  exact List.forall_mem_singleton.mpr hscreen

/-- The elements of a brief batch are stable, and their bags are brief. -/
theorem Sanitize.stable_and_brief_of_mem {stem : String} {raw : Json} (brief : raw.isBrief = true)
    {e : Element} (he : e ∈ elements stem raw) :
    e.Stable ∧ Json.membersBrief e.properties = true := by
  cases raw with
  | list items =>
      obtain ⟨i, hi, rfl⟩ := List.mem_mapIdx.mp he
      have hentry := Json.itemsBrief_iff.mp brief _ (List.getElem_mem hi)
      exact ⟨stable_element _ _,
        ComponentType.membersBrief_coerce _ (Json.isBrief_getD "properties" hentry)⟩
  | _ => cases he

end ScreenDesign
