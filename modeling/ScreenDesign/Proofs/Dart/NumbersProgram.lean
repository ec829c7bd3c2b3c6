import ScreenDesign.Proofs.Dart.Numbers

/-!
# The numbers of a program

The app and the drawer have no numbers, and the numbers of a screen are those of its
places and widgets (`numbers_of_designLayout`).
-/

namespace ScreenDesign.Dart

open Layout

/-! ## The app and the drawer -/

@[simp] theorem numbers_result (name : String) (body : List Layout) :
    (Dart.result name body).numbers = body.flatMap numbers := by
  simp [Dart.result, List.filterMap_cons]

@[simp] theorem numbers_buildMethod (body : List Layout) :
    (buildMethod body).flatMap numbers = body.flatMap numbers := by
  simp [buildMethod]

theorem numbers_app (dark : Bool) (title : String) (screens : List Screen) (names : List String) :
    (app dark title screens names).numbers = [] := by
  have htheme : (themeData dark).numbers = [] := by cases dark <;> simp [themeData]
  have hroutes : (routes screens names).flatMap numbers = [] := by
    cases screens with
    | nil => simp [routes]
    | cons first rest =>
        have hentries : (List.zipWith routeEntry (first :: rest) names).flatMap numbers = [] := by
          rw [← List.map_uncurry_zip_eq_zipWith, List.flatMap_map]
          exact List.flatMap_eq_nil_iff.mpr fun _ _ => numbers_line _
        simp only [routes, List.flatMap_cons, List.flatMap_nil, numbers_braces, hentries,
          numbers_line, List.append_nil]
        rfl
  simp only [app, numbers_braces, List.flatMap_append, numbers_buildMethod, List.flatMap_cons,
    List.flatMap_nil, numbers_result, hroutes, numbers_textRow, numbers_row, numbers_attach, htheme]
  rfl

theorem numbers_drawer (screens : List Screen) : (drawer screens).numbers = [] := by
  have hentries : (screens.map drawerEntry).flatMap numbers = [] := by
    refine List.flatMap_eq_nil_iff.mpr fun l hl => ?_
    obtain ⟨s, -, rfl⟩ := List.mem_map.mp hl
    simp [drawerEntry, route, List.filterMap_cons]
  simp only [drawer, numbers_braces, List.flatMap_append, numbers_buildMethod, List.flatMap_cons,
    List.flatMap_nil, numbers_result, numbers_argument, numbers_brackets, hentries, numbers_row]
  rfl

theorem numbers_programLayout (dark : Bool) (title : String) (screens : List Screen)
    (names : List String) (classes : List (List Layout)) :
    (programLayout dark title screens names classes).flatMap numbers =
      classes.flatten.flatMap numbers := by
  have hblank : blank.numbers = [] := numbers_line []
  have hclasses : (classes.flatMap (blank :: ·)).flatMap numbers =
      classes.flatten.flatMap numbers := by
    induction classes with
    | nil => rfl
    | cons ls classes ih => simp [hblank, ih]
  simp only [programLayout, preamble, List.flatMap_append, hclasses, List.flatMap_cons,
    List.flatMap_nil, hblank, numbers_app, numbers_drawer]
  rfl

/-! ## Screens -/

theorem numbers_screenClasses (s : Screen) (name : String) (fields widgets : List Layout) :
    (screenClasses s name fields widgets).flatMap numbers =
      fields.flatMap numbers ++ if s.elements.isEmpty then [] else widgets.flatMap numbers := by
  have hblank : blank.numbers = [] := numbers_line []
  have hempty : emptyBody.numbers = [] := numbers_line _
  cases hfields : fields.isEmpty <;> cases helements : s.elements.isEmpty <;>
    simp_all [screenClasses, List.filterMap_cons]

theorem numbers_stateField? {index : Int} {c : Content} {l : Layout}
    (h : stateField? index c = some l) : l.numbers = [] := by
  cases c with
  | choosable c =>
      obtain ⟨v, -, rfl⟩ := Option.map_eq_some_iff.mp h
      simp [List.filterMap_cons, number?_truth]
  | dropdown d =>
      obtain ⟨v, -, rfl⟩ := Option.map_eq_some_iff.mp h
      simp [List.filterMap_cons, number?_selection]
  | _ => cases h

theorem numbers_positioned (e : Element) (place : List Layout) (inside : Layout) :
    [elementRemark e, argument "Positioned" (place ++ [attach "child" inside])].flatMap numbers =
      place.flatMap numbers ++ inside.numbers := by
  simp [elementRemark, List.filterMap_cons]

/-- The numbers of a screen's classes are those of its places and widgets. -/
theorem numbers_of_screen {s : Screen} {name : String} {ls : List Layout}
    (h : (screen s name).result = .ok ls) {x : Binary64} (hx : x ∈ ls.flatMap numbers) :
    ∃ e ∈ s.elements, (∃ place, placeRows e = .ok place ∧ x ∈ place.flatMap numbers) ∨
      ∃ (index : Nat) (inside : Layout), (elementWidget index e).result = .ok inside ∧
        x ∈ inside.numbers := by
  obtain ⟨fields, widgets, hfields, hwidgets, rfl⟩ := screen_eq_ok h
  rw [numbers_screenClasses] at hx
  rcases List.mem_append.mp hx with hx | hx
  · obtain ⟨l, hl, hx⟩ := List.mem_flatMap.mp hx
    obtain ⟨i, e, hfield⟩ := exists_fieldOf hfields hl
    obtain ⟨c, hc⟩ := exists_stateField? hfield
    rw [numbers_stateField? hc] at hx
    cases hx
  · split at hx
    · cases hx
    · obtain ⟨l, hl, hx⟩ := List.mem_flatMap.mp hx
      obtain ⟨widget, hwidget, hl⟩ := List.mem_flatten.mp hl
      obtain ⟨y, hy, hwidget⟩ := exists_of_mem_mapM hwidgets hwidget
      obtain ⟨i, hi, rfl⟩ := List.mem_mapIdx.mp hy
      obtain ⟨place, inside, hplace, hinside, rfl⟩ := positioned_eq_ok hwidget
      refine ⟨_, List.getElem_mem hi, ?_⟩
      have hx := List.mem_flatMap.mpr ⟨l, hl, hx⟩
      rw [numbers_positioned, List.mem_append] at hx
      rcases hx with hx | hx
      · exact .inl ⟨place, hplace, hx⟩
      · exact .inr ⟨i, inside, hinside, hx⟩

/-- The numbers of a program are those of its screens' classes. -/
theorem numbers_of_designLayout {dark : Bool} {title : String} {screens : List Screen}
    {ls : List Layout} (h : (designLayout dark title screens).result = .ok ls) {x : Binary64}
    (hx : x ∈ ls.flatMap numbers) :
    ∃ s ∈ screens, ∃ name classes, (screen s name).result = .ok classes ∧
      x ∈ classes.flatMap numbers := by
  obtain ⟨classes, hclasses, rfl⟩ := designLayout_eq_ok h
  rw [numbers_programLayout] at hx
  obtain ⟨l, hl, hx⟩ := List.mem_flatMap.mp hx
  obtain ⟨lines, hlines, hl⟩ := List.mem_flatten.mp hl
  obtain ⟨y, hy, hlines⟩ := exists_of_mem_mapM hclasses hlines
  rw [← List.map_uncurry_zip_eq_zipWith] at hy
  obtain ⟨⟨s, name⟩, hsn, rfl⟩ := List.mem_map.mp hy
  exact ⟨s, (List.of_mem_zip hsn).1, name, lines, hlines, List.mem_flatMap.mpr ⟨l, hl, hx⟩⟩

end ScreenDesign.Dart
