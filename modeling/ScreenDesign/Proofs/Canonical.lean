import ScreenDesign.Problem
import ScreenDesign.Proofs.Fitting
import ScreenDesign.Proofs.SettledBag

/-!
# Canonical elements

An element is *canonical* if it lies on the canvas, is at least as large as its type
asks for, and has every key of its type.  These are exactly the elements without
problems (`ofElement_eq_nil_iff`).  A screen has no problems of its own exactly if its
elements are canonical and their ids do not repeat (`ofScreen_eq_nil_iff`).

Sanitizing makes every value canonical (`canonical_element`), and so does placing a
new element (`canonical_placed`).  The ids of a batch count its entries, and counting
does not repeat (`nodup_ids_elements`).
-/

namespace ScreenDesign

/-- An element that lies on the canvas, is large enough and has all its keys. -/
structure Element.Canonical (e : Element) : Prop where
  /-- It fits between the left and the right edge. -/
  across : Sanitize.Fits e.type.floor.width canvas.width e.x e.width
  /-- It fits between the top and the bottom edge. -/
  down : Sanitize.Fits e.type.floor.height canvas.height e.y e.height
  /-- Its bag has every key of the type. -/
  keyed : ∀ key ∈ e.type.keys, Entries.has e.properties key = true

/-- An element whose place and size have at most fifty-three bits. -/
structure Element.Small (e : Element) : Prop where
  left : e.x.natAbs < Nat.pow 2 53
  top : e.y.natAbs < Nat.pow 2 53
  width : e.width.natAbs < Nat.pow 2 53
  height : e.height.natAbs < Nat.pow 2 53

/-- The canvas is small. -/
theorem Element.Canonical.small {e : Element} (h : e.Canonical) : e.Small := by
  have hbits : 640 < Nat.pow 2 53 := by decide
  have hcanvas : (canvas.width : Int) = 360 ∧ (canvas.height : Int) = 640 := ⟨rfl, rfl⟩
  have hwidth : (0 : Int) ≤ e.type.floor.width := Int.natCast_nonneg _
  have hheight : (0 : Int) ≤ e.type.floor.height := Int.natCast_nonneg _
  obtain ⟨hx, hwide, hright⟩ := h.across
  obtain ⟨hy, htall, hbottom⟩ := h.down
  constructor <;> refine Nat.lt_of_le_of_lt ?_ hbits <;> omega

namespace Finding

/-! ## Elements without problems -/

/-- The place and the size of an element are in order exactly if it fits both ways. -/
theorem bounds_size_eq_nil_iff (e : Element) :
    bounds e ++ size e = [] ↔
      Sanitize.Fits e.type.floor.width canvas.width e.x e.width ∧
        Sanitize.Fits e.type.floor.height canvas.height e.y e.height := by
  have right_eq : e.right = e.x + e.width := rfl
  have bottom_eq : e.bottom = e.y + e.height := rfl
  have hwidth : (0 : Int) ≤ e.type.floor.width := Int.natCast_nonneg _
  have hheight : (0 : Int) ≤ e.type.floor.height := Int.natCast_nonneg _
  constructor
  · intro h
    obtain ⟨hbounds, hsize⟩ := List.append_eq_nil_iff.mp h
    rw [bounds] at hbounds
    rw [size] at hsize
    split at hbounds
    case isTrue => cases hbounds
    case isFalse on =>
        split at hbounds
        case isTrue => cases hbounds
        case isFalse within =>
            split at hsize
            case isTrue => cases hsize
            case isFalse large =>
                constructor <;> constructor <;> omega
  · rintro ⟨⟨left, wide, right⟩, ⟨top, tall, bottom⟩⟩
    have hbounds : bounds e = [] := by
      rw [bounds, if_neg (by omega), if_neg (by omega)]
    have hsize : size e = [] := by
      rw [size, if_neg (by omega)]
    rw [hbounds, hsize, List.append_nil]

theorem keys_eq_nil_iff (e : Element) :
    keys e = [] ↔ ∀ key ∈ e.type.keys, Entries.has e.properties key = true := by
  have sorted := List.mergeSort_perm
    (e.type.keys.filter fun k => !Entries.has e.properties k) fun a b => decide (a ≤ b)
  have none_missing : missing e = [] ↔
      ∀ key ∈ e.type.keys, Entries.has e.properties key = true := by
    rw [missing, ← List.length_eq_zero_iff, sorted.length_eq, List.length_eq_zero_iff,
      List.filter_eq_nil_iff]
    simp
  rw [← none_missing, keys]
  cases missing e <;> simp

/-- Exactly the canonical elements have no problems. -/
theorem ofElement_eq_nil_iff (e : Element) : ofElement e = [] ↔ e.Canonical := by
  rw [ofElement, List.map_eq_nil_iff, List.append_eq_nil_iff, bounds_size_eq_nil_iff,
    keys_eq_nil_iff]
  constructor
  · rintro ⟨⟨across, down⟩, keyed⟩
    exact ⟨across, down, keyed⟩
  · rintro ⟨across, down, keyed⟩
    exact ⟨⟨across, down⟩, keyed⟩

/-! ## Screens without problems -/

theorem mem_distinct {a : String} {as : List String} : a ∈ distinct as ↔ a ∈ as := by
  induction as with
  | nil => simp [distinct]
  | cons b as ih =>
      rw [distinct, List.mem_cons, List.mem_filter, ih, List.mem_cons]
      by_cases h : a = b <;> simp [h]

/-- No id repeats on a screen exactly if its ids are distinct. -/
theorem repeatedIds_eq_nil_iff (s : Screen) :
    repeatedIds s = [] ↔ (s.elements.map Element.id).Nodup := by
  simp only [repeatedIds, List.map_eq_nil_iff, List.filter_eq_nil_iff, mem_distinct,
    decide_eq_true_eq, Nat.not_lt]
  rw [List.nodup_iff_count_le_one]
  constructor
  · -- A string that is no id at all does not repeat either.
    intro h a
    by_cases present : a ∈ s.elements.map Element.id
    · exact h a present
    · rw [List.count_eq_zero.mpr present]
      exact Nat.zero_le 1
  · exact fun h a _ => h a

/-- Exactly the screens of canonical elements with distinct ids have no problems of
their own. -/
theorem ofScreen_eq_nil_iff (s : Screen) :
    ofScreen s none = [] ↔
      (∀ e ∈ s.elements, e.Canonical) ∧ (s.elements.map Element.id).Nodup := by
  simp only [ofScreen, List.append_nil, List.append_eq_nil_iff, List.flatMap_eq_nil_iff,
    ofElement_eq_nil_iff, repeatedIds_eq_nil_iff]

end Finding

/-! ## Sanitized elements -/

namespace ComponentType

theorem floor_le_canvas (t : ComponentType) :
    t.floor.width ≤ canvas.width ∧ t.floor.height ≤ canvas.height :=
  ⟨Nat.le_trans t.floor_le_defaultSize.1 t.defaultSize_le_canvas.1,
    Nat.le_trans t.floor_le_defaultSize.2 t.defaultSize_le_canvas.2⟩

end ComponentType

namespace Sanitize

theorem canonical_element (raw : Json) (id : String) : (element raw id).Canonical where
  across := by
    have h := (typeOf raw).floor_le_canvas.1
    have on := coordinate_nonneg (Int.natCast_nonneg canvas.width) defaultX (raw.getD "x")
    exact fits_fitAxis (Int.ofNat_le.mpr h) on _
  down := by
    have h := (typeOf raw).floor_le_canvas.2
    have on := coordinate_nonneg (Int.natCast_nonneg canvas.height) defaultY (raw.getD "y")
    exact fits_fitAxis (Int.ofNat_le.mpr h) on _
  keyed := fun _ hkey => (ComponentType.settled_coerce _ _).has_key hkey

/-- The entries of a batch.  A value that is no list has none. -/
def entries : Json → List Json
  | .list items => items
  | _ => []

/-- A batch has one element for each entry, in order. -/
theorem elements_eq_mapIdx (stem : String) (raw : Json) :
    elements stem raw = (entries raw).mapIdx fun i entry => element entry (entryId stem i) := by
  cases raw <;> rfl

/-- The ids of a batch count its entries. -/
theorem map_id_elements (stem : String) (raw : Json) :
    (elements stem raw).map Element.id =
      (List.range (entries raw).length).map (entryId stem) := by
  rw [elements_eq_mapIdx]
  apply List.ext_getElem
  · simp
  · intro i _ _
    simp [element]

theorem map_type_elements (stem : String) (raw : Json) :
    (elements stem raw).map Element.type = (entries raw).map typeOf := by
  rw [elements_eq_mapIdx]
  apply List.ext_getElem
  · simp
  · intro i _ _
    simp [element]

theorem entryId_injective (stem : String) : Function.Injective (entryId stem) := by
  intro i j h
  have digits : Nat.toDigits 10 i = Nat.toDigits 10 j := by
    have := congrArg String.toList h
    simpa [entryId, Nat.repr] using this
  calc i = Nat.ofDigitChars 10 (Nat.toDigits 10 i) 0 := Nat.ofDigitChars_ten_toDigits.symm
    _ = Nat.ofDigitChars 10 (Nat.toDigits 10 j) 0 := by rw [digits]
    _ = j := Nat.ofDigitChars_ten_toDigits

theorem nodup_ids_elements (stem : String) (raw : Json) :
    ((elements stem raw).map Element.id).Nodup := by
  rw [map_id_elements]
  exact List.nodup_range.map (entryId_injective stem)

/-- Every element of a batch was made from some entry. -/
theorem exists_of_mem_elements {stem : String} {raw : Json} {e : Element}
    (h : e ∈ elements stem raw) : ∃ entry id, e = element entry id := by
  rw [elements_eq_mapIdx, List.mem_mapIdx] at h
  obtain ⟨i, _, rfl⟩ := h
  exact ⟨_, _, rfl⟩

end Sanitize

/-! ## Placed elements -/

namespace Json

/-- Whether a value can be a position: a truth value or a finite number. -/
def isPosition : Json → Bool
  | .bool _ => true
  | .number n => n.isFinite
  | _ => false

theorem exists_rounded {j : Json} (h : j.isPosition = true) : ∃ n, j.rounded = .ok n := by
  cases j with
  | bool b => exact ⟨_, rfl⟩
  | number n =>
      have rounds : n.round?.isSome = true := by
        cases n with
        | int n => rfl
        | float x => exact (Binary64.round?_isSome x).trans h
      obtain ⟨m, hm⟩ := Option.isSome_iff_exists.mp rounds
      exact ⟨m, by rw [rounded, hm]⟩
  | _ => cases h

/-- An id that may be missing, as a value. -/
def ofId? : Option String → Json
  | some s => .text s
  | none => .null

/-- With a text or without an id there is a text to use. -/
theorem exists_orFresh_ofId? (kind random : String) (id : Option String) :
    ∃ s, (ofId? id).orFresh kind random = .text s := by
  rw [orFresh]
  split
  case isTrue given =>
      cases id with
      | some s => exact ⟨s, rfl⟩
      | none => cases given
  case isFalse => exact ⟨_, rfl⟩

end Json

namespace Element

theorem canonical_placed (t : ComponentType) (x y : Int) (id : String) :
    (placed t x y id).Canonical where
  across := by
    have floor := Int.ofNat_le.mpr t.floor_le_defaultSize.1
    have room := Int.ofNat_le.mpr t.defaultSize_le_canvas.1
    have on := clamp_bounds (Int.sub_nonneg.mpr room) x
    exact ⟨on.1, floor, by simp only [placed]; omega⟩
  down := by
    have floor := Int.ofNat_le.mpr t.floor_le_defaultSize.2
    have room := Int.ofNat_le.mpr t.defaultSize_le_canvas.2
    have on := clamp_bounds (Int.sub_nonneg.mpr room) y
    exact ⟨on.1, floor, by simp only [placed]; omega⟩
  keyed := fun _ hkey => (ComponentType.settled_defaults t).has_key hkey

theorem exists_place {x y : Json} (hx : x.isPosition = true) (hy : y.isPosition = true)
    (random : String) (t : ComponentType) (id : Option String) :
    ∃ m n s, place random t x y (.ofId? id) = .ok (placed t m n s) := by
  obtain ⟨m, hm⟩ := Json.exists_rounded hx
  obtain ⟨n, hn⟩ := Json.exists_rounded hy
  obtain ⟨s, hs⟩ := Json.exists_orFresh_ofId? "element" random id
  refine ⟨m, n, s, ?_⟩
  rw [place, hm, hn, hs]
  rfl

end Element

/-! ## Nothing to report -/

namespace Sanitize

/-- Any value gives a screen without problems: one canonical element for each entry,
in order, with the type of the entry and an id of its own.  A new element that is
placed at any position has no problems either. -/
theorem no_findings_of_sanitized_or_placed (stem : String) (raw : Json)
    (screenId name : String) :
    ((elements stem raw).map Element.type = (entries raw).map typeOf ∧
      (elements stem raw).map Element.id = (List.range (entries raw).length).map (entryId stem) ∧
      ((elements stem raw).map Element.id).Nodup ∧
      (∀ e ∈ elements stem raw, e.Canonical) ∧
      Finding.ofScreen ⟨screenId, name, elements stem raw⟩ none = []) ∧
    ∀ (t : ComponentType) (x y : Json), x.isPosition = true → y.isPosition = true →
      ∀ (random : String) (id : Option String),
        ∃ e, Element.place random t x y (.ofId? id) = .ok e ∧ e.type = t ∧ e.Canonical ∧
          Finding.ofElement e = [] := by
  have canonical : ∀ e ∈ elements stem raw, e.Canonical := by
    intro e he
    obtain ⟨entry, id, rfl⟩ := exists_of_mem_elements he
    exact canonical_element entry id
  have distinct := nodup_ids_elements stem raw
  constructor
  · refine ⟨map_type_elements stem raw, map_id_elements stem raw, distinct, canonical, ?_⟩
    exact (Finding.ofScreen_eq_nil_iff _).mpr ⟨canonical, distinct⟩
  · intro t x y hx hy random id
    obtain ⟨m, n, s, placed⟩ := Element.exists_place hx hy random t id
    have canonical := Element.canonical_placed t m n s
    exact ⟨_, placed, rfl, canonical, (Finding.ofElement_eq_nil_iff _).mpr canonical⟩

/-- An icon at the far corner of the canvas, a number as text, and a value that is no
record. -/
theorem no_findings_at_corner :
    Finding.ofScreen
        ⟨"s", "S", elements "e" (.list
          [.object [("type", .text "icon"), ("x", .int 359), ("y", .text "639.5")], .null])⟩
        none = [] ∧
      ∃ e, Element.place "0" .icon (.int 400) (.int (-3)) (.ofId? none) = .ok e ∧
        e.type = .icon ∧ e.Canonical ∧ Finding.ofElement e = [] :=
  ⟨(no_findings_of_sanitized_or_placed "e" _ "s" "S").1.2.2.2.2,
    (no_findings_of_sanitized_or_placed "e" .null "s" "S").2 .icon (.int 400) (.int (-3))
      rfl rfl "0" none⟩

end Sanitize

end ScreenDesign
