import ScreenDesign.Proofs.Canonical
import ScreenDesign.Proofs.Results

/-!
# Sanitizing again

A *stable* element is canonical and has a settled bag.  Sanitizing makes every value
stable, and so does placing a new element.  The record of a stable element is
sanitized to the element itself under its new id (`Stable.element_stored`): the axes
fit already, and the bag is coerced to itself.

A batch that is sanitized twice gets the same ids both times, because they count the
entries.  So sanitizing is idempotent.
-/

namespace ScreenDesign

/-- An element in which sanitizing has nothing left to do. -/
structure Element.Stable (e : Element) : Prop where
  /-- Its place and its size are in order. -/
  canonical : e.Canonical
  /-- Its bag is settled. -/
  settled : e.type.Settled e.properties

theorem Sanitize.stable_element (raw : Json) (id : String) :
    (Sanitize.element raw id).Stable :=
  ⟨canonical_element raw id, ComponentType.settled_coerce _ _⟩

theorem Element.stable_placed (t : ComponentType) (x y : Int) (id : String) :
    (placed t x y id).Stable :=
  ⟨canonical_placed t x y id, t.settled_defaults⟩

/-- Placing gives placed elements only. -/
theorem Element.eq_placed_of_place {random : String} {t : ComponentType} {x y id : Json}
    {e : Element} (h : place random t x y id = .ok e) :
    ∃ t m n s, e = placed t m n s := by
  obtain ⟨m, -, h⟩ := bind_eq_ok.mp h
  obtain ⟨n, -, h⟩ := bind_eq_ok.mp h
  obtain ⟨s, -, h⟩ := bind_eq_ok.mp h
  cases h
  exact ⟨t, m, n, s, rfl⟩

namespace Element

/-! ## Records of elements -/

theorem stored_toJson {e : Element} (h : e.type.Settled e.properties) :
    e.toJson.stored = e.toJson := by
  have bag := h.stored_eq
  simp only [toJson, Json.stored, Json.storedMembers, Json.int, Number.isFinite, if_true, bag]

theorem getD_toJson (e : Element) :
    e.toJson.getD "type" = .text e.type.name ∧ e.toJson.getD "x" = .int e.x ∧
      e.toJson.getD "y" = .int e.y ∧ e.toJson.getD "width" = .int e.width ∧
      e.toJson.getD "height" = .int e.height ∧
      e.toJson.getD "properties" = .object e.properties := by
  simp [toJson, Json.getD, Json.get?, Entries.get?]

/-- A stable element is sanitized to itself, apart from its id. -/
theorem Stable.element_stored {e : Element} (h : e.Stable) (id : String) :
    Sanitize.element e.toJson.stored id = { e with id := id } := by
  obtain ⟨⟨across, down, -⟩, settled⟩ := h
  obtain ⟨htype, hx, hy, hwidth, hheight, hproperties⟩ := e.getD_toJson
  have type_eq : Sanitize.typeOf e.toJson = e.type := by
    rw [Sanitize.typeOf, Sanitize.type?, htype]
    exact congrArg (Option.getD · _) (ComponentType.ofName?_name e.type)
  have x_le := across.position_le (Int.natCast_nonneg _)
  have y_le := down.position_le (Int.natCast_nonneg _)
  rw [stored_toJson settled, Sanitize.element]
  simp only [type_eq, hx, hy, hwidth, hheight, hproperties, Sanitize.extent_int,
    Sanitize.coordinate_int _ across.near x_le, Sanitize.coordinate_int _ down.near y_le,
    Sanitize.fitAxis_of_fits across, Sanitize.fitAxis_of_fits down, settled.coerce_eq]

end Element

namespace Sanitize

/-! ## Batches of elements -/

theorem storedItems_eq_map (items : List Json) :
    Json.storedItems items = items.map Json.stored := by
  induction items with
  | nil => rfl
  | cons j js ih => rw [Json.storedItems, ih, List.map_cons]

theorem ofElements_eq (es : List Element) :
    ofElements es = .list (es.map fun e => e.toJson.stored) := by
  rw [ofElements, Json.stored, storedItems_eq_map, List.map_map]
  rfl

/-- Stable elements are sanitized to themselves, with ids that count them. -/
theorem elements_ofElements {es : List Element} (h : ∀ e ∈ es, e.Stable) (stem : String) :
    elements stem (ofElements es) = es.mapIdx fun i e => { e with id := entryId stem i } := by
  rw [ofElements_eq]
  apply List.ext_getElem
  · simp [elements]
  · intro i hi _
    have small : i < es.length := by simpa [elements] using hi
    have stable := h es[i] (List.getElem_mem small)
    simpa [elements] using stable.element_stored (entryId stem i)

/-- The elements of a batch have the ids that they would get once more. -/
theorem mapIdx_elements (stem : String) (raw : Json) :
    ((elements stem raw).mapIdx fun i e => { e with id := entryId stem i }) =
      elements stem raw := by
  rw [elements_eq_mapIdx]
  apply List.ext_getElem
  · simp
  · intro i _ _
    simp [element]

/-- Sanitizing what was sanitized changes nothing, whether it comes as elements or as
their stored records.  Placed elements keep everything but their ids. -/
theorem elements_elements (stem : String) (raw : Json) :
    (elements stem (ofElements (elements stem raw)) = elements stem raw ∧
      elements stem (.list ((elements stem raw).map fun e => e.toJson.stored)) =
        elements stem raw) ∧
    ∀ es : List Element,
      (∀ e ∈ es, ∃ random t x y id, Element.place random t x y id = .ok e) →
        elements stem (ofElements es) =
          es.mapIdx fun i e => { e with id := entryId stem i } := by
  have stable : ∀ e ∈ elements stem raw, e.Stable := by
    intro e he
    obtain ⟨entry, id, rfl⟩ := exists_of_mem_elements he
    exact stable_element entry id
  have again : elements stem (ofElements (elements stem raw)) = elements stem raw :=
    (elements_ofElements stable stem).trans (mapIdx_elements stem raw)
  refine ⟨⟨again, ?_⟩, ?_⟩
  · rw [← ofElements_eq]
    exact again
  · intro es placed
    apply elements_ofElements
    intro e he
    obtain ⟨random, t, x, y, id, made⟩ := placed e he
    obtain ⟨t, m, n, s, rfl⟩ := Element.eq_placed_of_place made
    exact Element.stable_placed t m n s

/-- A new switch in the middle of the canvas only changes its id. -/
theorem elements_placed_toggle :
    elements "e" (ofElements [Element.placed .toggle 100 200 "old"]) =
      [Element.placed .toggle 100 200 "e-0"] :=
  (elements_elements "e" .null).2 [Element.placed .toggle 100 200 "old"] (by
    intro e he
    rw [List.mem_singleton] at he
    subst he
    exact ⟨"0", .toggle, .int 100, .int 200, .text "old", rfl⟩)

end Sanitize

end ScreenDesign
