import ScreenDesign.Proofs.Canonical
import ScreenDesign.Proofs.Dart.NumbersProgram
import ScreenDesign.Proofs.Readable

/-!
# Generating programs

An element is *drawable* if it shows something and none of its lengths is too large.
Exactly then it has a widget (`exists_elementWidget_iff`), and a design of canonical
elements has a program exactly if all of them are drawable (`exists_program_iff`).

A settled bag holds finite numbers, so every number in the program of a sanitized batch
is a finite number with one decimal.  What is left that can go wrong is a whole number
that is too large, since such numbers are finite and are kept as they are.

The warnings of a design cannot fail.  They are one `filterMap` over the targets of its elements
(`result_warnings_of`), and a program has those of its design (`warnings_of_program`).
-/

namespace ScreenDesign

/-! ## Lengths -/

/-- The lengths of a content are numbers of its record. -/
theorem Content.lengths_of_ofRecord {t : ComponentType} {r : Record} {c : Content}
    (h : (ofRecord t r).result = .ok c) {n : Number} (hn : n ∈ c.lengths) :
    ∃ key ∈ t.keysOf .number, n = r.number key := by
  have hone {key : String} (hkey : key ∈ t.keysOf .number) (hn : n = r.number key) :
      ∃ key ∈ t.keysOf .number, n = r.number key := ⟨key, hkey, hn⟩
  cases t with
  | button | icon | row | column | stack =>
      cases h
      exact hone (by decide) (List.mem_singleton.mp hn)
  | card =>
      cases h
      rcases List.mem_append.mp hn with hn | himage
      · simp only [cardOf, List.mem_cons, List.not_mem_nil, or_false] at hn
        rcases hn with hn | hn | hn
        · exact hone (by decide) hn
        · exact hone (by decide) hn
        · exact hone (by decide) hn
      · rw [Option.mem_toList, cardOf] at himage
        split at himage
        · exact hone (by decide) (Option.some.inj himage).symm
        · cases himage
  | container =>
      cases h
      simp only [lengths, containerOf, List.mem_cons, List.not_mem_nil, or_false] at hn
      rcases hn with hn | hn | hn
      · exact hone (by decide) hn
      · exact hone (by decide) hn
      · exact hone (by decide) hn
  | list =>
      obtain ⟨items, -, hc⟩ := bind_eq_ok.mp ((Logged.result_bind _ _).symm.trans h)
      cases hc
      obtain ⟨tile, -, hn⟩ := List.mem_flatMap.mp hn
      split at hn
      · cases hn
      · exact hone (by decide) (List.mem_singleton.mp hn)
  | dropdown =>
      obtain ⟨choices, -, hc⟩ := bind_eq_ok.mp ((Logged.result_bind _ _).symm.trans h)
      cases hc
      cases hn
  | dynamicTable =>
      obtain ⟨table, -, hc⟩ := bind_eq_ok.mp ((Logged.result_bind _ _).symm.trans h)
      cases hc
      cases hn
  | _ =>
      cases h
      cases hn

/-! ## Settled bags -/

namespace ComponentType.Settled

variable {t : ComponentType} {bag : Bag} {r : Record} {key : String}

/-- A number of a settled bag is the number in the record, and it is finite. -/
theorem get?_number (h : t.Settled bag) (hr : Record.read t bag = .ok r)
    (hkey : key ∈ t.keysOf .number) :
    Entries.get? bag key = some (.number (r.number key)) ∧ (r.number key).isFinite = true := by
  obtain ⟨f, hf, hkind, rfl⟩ := mem_keysOf.mp hkey
  obtain ⟨hget, hread⟩ := h.get?_key hf
  have hholds := Field.holds_of_read hf hread
  rw [Record.number, Record.value?_of_read hr hf]
  rw [hkind] at hholds
  cases hvalue : f.valueIn bag with
  | text s => rw [hvalue] at hholds; cases hholds
  | number n =>
      rw [hvalue] at hget
      exact ⟨hget, isScalar_of_judge (h.kept _ (Entries.mem_of_get? hget))⟩
  | flag b => rw [hvalue] at hholds; cases hholds

end ComponentType.Settled

/-! ## Elements -/

/-- The whole number that a value is. -/
def Json.int? : Json → Option Int
  | .number (.int i) => some i
  | _ => none

/-- An element that shows something, with lengths that are not too large. -/
def Element.Drawable (e : Element) : Prop :=
  ∃ c, e.content.result = .ok c ∧ ∀ i : Int, .int i ∈ c.lengths → i.natAbs < Binary64.overflow

namespace Dart

/-- Exactly the drawable elements have widgets. -/
theorem exists_elementWidget_iff {index : Int} {e : Element} :
    (∃ l, (elementWidget index e).result = .ok l) ↔ e.Drawable := by
  constructor
  · rintro ⟨l, hl⟩
    obtain ⟨c, hc, hwidget⟩ := exists_content hl
    exact ⟨c, hc, exists_widget_iff.mp ⟨l, hwidget⟩⟩
  · rintro ⟨c, hc, hlengths⟩
    rw [Element.result_elementWidget hc]
    exact exists_widget_iff.mpr hlengths

/-- All that fails in the widget of an element with readable texts is a number that is too
large. -/
theorem elementWidget_eq_error {index : Int} {e : Element} {f : Failure} (h : e.Legible)
    (hf : (elementWidget index e).result = .error f) : f = .tooLarge := by
  obtain ⟨c, hc⟩ := h.exists_content
  rw [Element.result_elementWidget hc] at hf
  exact widget_eq_error hf

end Dart

namespace Element

variable {e : Element}

/-- The lengths of an element with a settled bag are finite numbers in the bag. -/
theorem length_of_settled (h : e.type.Settled e.properties) {c : Content}
    (hc : e.content.result = .ok c) {n : Number} (hn : n ∈ c.lengths) :
    n.isFinite = true ∧
      ∃ key ∈ e.type.keysOf .number, Entries.get? e.properties key = some (.number n) := by
  obtain ⟨r, hread, -⟩ := h.exists_read
  have hr : e.record.result = .ok r := by rw [record_of_read hread]; rfl
  rw [result_content hr] at hc
  obtain ⟨key, hkey, rfl⟩ := Content.lengths_of_ofRecord hc hn
  obtain ⟨hget, hfinite⟩ := h.get?_number hread hkey
  exact ⟨hfinite, key, hkey, hget⟩

/-- The target in the record of a button, if it leads somewhere. -/
def typedTarget? (e : Element) : Option String :=
  if e.type = .button then
    e.record.result.toOption.bind fun r => nonEmpty? (r.text "navigateTo")
  else none

/-- The whole numbers that a bag gives to the fields of numbers are not too large. -/
def Moderate (e : Element) : Prop :=
  ∀ m ∈ e.properties, m.1 ∈ e.type.keysOf .number → ∀ i ∈ m.2.int?,
    i.natAbs < Binary64.overflow

instance : DecidablePred Moderate := fun e =>
  inferInstanceAs (Decidable (∀ m ∈ e.properties, _))

/-- With readable texts and without numbers that are too large, an element with a settled
bag is drawable. -/
theorem drawable_of_settled (h : e.type.Settled e.properties) (htexts : e.Legible)
    (hnumbers : e.Moderate) : e.Drawable := by
  obtain ⟨c, hc⟩ := htexts.exists_content
  refine ⟨c, hc, fun i hi => ?_⟩
  obtain ⟨-, key, hkey, hget⟩ := length_of_settled h hc hi
  exact hnumbers _ (Entries.mem_of_get? hget) hkey i rfl

end Element

namespace Dart

open Layout

/-! ## Places -/

/-- An element on the canvas has a place. -/
theorem exists_placeRows {e : Element} (h : e.Canonical) : ∃ ls, placeRows e = .ok ls := by
  have hrow (key : String) {n : Int} (hn : n.natAbs < Nat.pow 2 53) :
      ∃ l, placeRow key n = .ok l := by
    obtain ⟨x, hx⟩ := exists_double_iff.mpr fun i hi => Number.int.inj hi ▸ Binary64.lt_overflow hn
    exact ⟨_, by rw [placeRow, numberRow, hx]; rfl⟩
  obtain ⟨left, hleft⟩ := hrow "left" h.small.left
  obtain ⟨top, htop⟩ := hrow "top" h.small.top
  obtain ⟨width, hwidth⟩ := hrow "width" h.small.width
  obtain ⟨height, hheight⟩ := hrow "height" h.small.height
  exact ⟨_, by rw [placeRows, hleft, htop, hwidth, hheight]; rfl⟩

/-- The numbers of a place are finite. -/
theorem isFinite_of_mem_placeRows {e : Element} {ls : List Layout} (h : placeRows e = .ok ls)
    {x : Binary64} (hx : x ∈ ls.flatMap numbers) : x.isFinite = true := by
  have hrow {key : String} {n : Int} {l : Layout} (h : placeRow key n = .ok l) (hx : x ∈ l.numbers) :
      x.isFinite = true := by
    obtain ⟨y, hy, rfl⟩ := map_eq_ok.mp h
    have : x = y := by simpa [List.filterMap_cons] using hx
    exact this ▸ isFinite_of_double hy rfl
  rw [placeRows] at h
  obtain ⟨left, hleft, h⟩ := bind_eq_ok.mp h
  obtain ⟨top, htop, h⟩ := bind_eq_ok.mp h
  obtain ⟨width, hwidth, h⟩ := bind_eq_ok.mp h
  obtain ⟨height, hheight, h⟩ := bind_eq_ok.mp h
  cases h
  simp only [List.flatMap_cons, List.flatMap_nil, List.append_nil, List.mem_append] at hx
  rcases hx with hx | hx | hx | hx
  · exact hrow hleft hx
  · exact hrow htop hx
  · exact hrow hwidth hx
  · exact hrow hheight hx

/-! ## Screens -/

variable {e : Element} {s : Screen}

/-- An element that shows something has the declaration of its state, if it has one. -/
theorem exists_field {c : Content} (hc : e.content.result = .ok c) (index : Int) :
    ∃ field, (fieldOf index e).result = .ok field := by
  obtain ⟨r, hr, -⟩ := e.exists_record
  rw [Element.result_content hr] at hc
  rw [fieldOf]
  split
  · rw [Logged.result_bind_of_ok hr]
    split
    · exact ⟨_, Logged.result_bind_of_ok hc _⟩
    · exact ⟨none, rfl⟩
  · exact ⟨none, rfl⟩

theorem exists_positioned_iff (h : e.Canonical) {index : Int} :
    (∃ ls, (positioned index e).result = .ok ls) ↔ e.Drawable := by
  rw [← @exists_elementWidget_iff index]
  constructor
  · rintro ⟨ls, hls⟩
    obtain ⟨place, inside, -, hinside, -⟩ := positioned_eq_ok hls
    exact ⟨inside, hinside⟩
  · rintro ⟨inside, hinside⟩
    obtain ⟨place, hplace⟩ := exists_placeRows h
    have hplace : (Logged.ofExcept (placeRows e)).result = .ok place := hplace
    exact ⟨_, (Logged.result_bind_of_ok hplace _).trans (Logged.result_bind_of_ok hinside _)⟩

/-- A screen of canonical elements has its classes exactly if all of them are drawable. -/
theorem exists_screen_iff (h : ∀ e ∈ s.elements, e.Canonical) {name : String} :
    (∃ ls, (screen s name).result = .ok ls) ↔ ∀ e ∈ s.elements, e.Drawable := by
  constructor
  · rintro ⟨ls, hls⟩ e he
    obtain ⟨fields, widgets, -, hwidgets, -⟩ := screen_eq_ok hls
    obtain ⟨i, hi, rfl⟩ := List.getElem_of_mem he
    have hmem : positioned i s.elements[i] ∈ s.elements.mapIdx fun i e => positioned i e :=
      List.mem_mapIdx.mpr ⟨i, hi, rfl⟩
    obtain ⟨ls, hls⟩ := exists_mapM_iff.mp ⟨widgets, hwidgets⟩ _ hmem
    exact (exists_positioned_iff (h _ he)).mp ⟨ls, hls⟩
  · intro hdrawable
    have hfields : ∃ fields, ((s.elements.mapIdx fun i e => fieldOf i e).mapM id).result =
        .ok fields := by
      rw [Logged.result_mapM, exists_mapM_iff]
      intro x hx
      obtain ⟨i, hi, rfl⟩ := List.mem_mapIdx.mp hx
      obtain ⟨c, hc, -⟩ := hdrawable _ (List.getElem_mem hi)
      exact exists_field hc i
    have hwidgets : ∃ widgets, ((s.elements.mapIdx fun i e => positioned i e).mapM id).result =
        .ok widgets := by
      rw [Logged.result_mapM, exists_mapM_iff]
      intro x hx
      obtain ⟨i, hi, rfl⟩ := List.mem_mapIdx.mp hx
      have he := List.getElem_mem hi
      exact (exists_positioned_iff (h _ he)).mpr (hdrawable _ he)
    obtain ⟨fields, hfields⟩ := hfields
    obtain ⟨widgets, hwidgets⟩ := hwidgets
    exact ⟨_, (Logged.result_bind_of_ok hfields _).trans (Logged.result_bind_of_ok hwidgets _)⟩

/-! ## Programs -/

/-- Every element has its target. -/
theorem result_target (e : Element) : (target? e).result = .ok e.typedTarget? := by
  obtain ⟨r, hr, -⟩ := e.exists_record
  rw [target?, Element.typedTarget?]
  split
  · rw [Logged.result_bind_of_ok hr, hr]
    rfl
  · rfl

/-- The warnings of a design by the targets of its elements. -/
theorem result_warnings_of {screens : List Screen} {f : Element → Option String}
    (h : ∀ s ∈ screens, ∀ e ∈ s.elements, (target? e).result = .ok (f e)) :
    (warnings screens).result = .ok (screens.flatMap fun s => s.elements.filterMap fun e =>
      ((f e).filter (· ∉ screens.map Screen.id)).map fun target => ⟨s.id, e.id, target⟩) := by
  have hscreen : ∀ s ∈ screens, (screenWarnings (screens.map Screen.id) s).result =
      .ok (s.elements.filterMap fun e =>
        ((f e).filter (· ∉ screens.map Screen.id)).map fun target => ⟨s.id, e.id, target⟩) := by
    intro s hs
    have hall : (s.elements.mapM (warning? (screens.map Screen.id) s)).result =
        .ok (s.elements.map fun e =>
          ((f e).filter (· ∉ screens.map Screen.id)).map fun target => ⟨s.id, e.id, target⟩) := by
      rw [Logged.result_mapM]
      apply mapM_eq_map
      intro e he
      rw [warning?, Logged.result_bind_of_ok (h s hs e he)]
      rfl
    rw [screenWarnings, Logged.result_bind_of_ok hall, Logged.result_pure, List.filterMap_map]
    rfl
  rw [warnings, Logged.result_bind_of_ok ((Logged.result_mapM _ _).trans (mapM_eq_map hscreen)),
    Logged.result_pure, List.flatMap_def]

/-- The warnings of a program are those of its design. -/
theorem warnings_of_program {dark : Bool} {title : String} {screens : List Screen} {p : Program}
    (h : (program dark title screens).result = .ok p) :
    (warnings screens).result = .ok p.warnings := by
  rw [program, Logged.result_bind] at h
  obtain ⟨found, hfound, h⟩ := bind_eq_ok.mp h
  rw [Logged.result_bind] at h
  obtain ⟨_, -, h⟩ := bind_eq_ok.mp h
  rw [Logged.result_bind] at h
  obtain ⟨classes, -, h⟩ := bind_eq_ok.mp h
  cases h
  exact hfound

/-- Every screen gets a class name. -/
theorem exists_mem_zip_assign {screens : List Screen} (hs : s ∈ screens) :
    ∃ name, (s, name) ∈ screens.zip (assign (screens.map Screen.name)) := by
  have hlength : (assign (screens.map Screen.name)).length = screens.length := by
    rw [length_assign, List.length_map]
  have hunzip : ((screens.zip (assign (screens.map Screen.name))).map Prod.fst) = screens :=
    List.map_fst_zip (Nat.le_of_eq hlength.symm)
  rw [← hunzip] at hs
  obtain ⟨⟨s, name⟩, hmem, rfl⟩ := List.mem_map.mp hs
  exact ⟨name, hmem⟩

/-- A design of canonical elements has a program exactly if all of them are drawable. -/
theorem exists_program_iff {screens : List Screen}
    (h : ∀ s ∈ screens, ∀ e ∈ s.elements, e.Canonical) (dark : Bool) (title : String) :
    (∃ p, (program dark title screens).result = .ok p) ↔
      ∀ s ∈ screens, ∀ e ∈ s.elements, e.Drawable := by
  constructor
  · rintro ⟨p, hp⟩ s hs
    obtain ⟨ls, hls, -⟩ := exists_designLayout hp
    obtain ⟨classes, hclasses, -⟩ := designLayout_eq_ok hls
    obtain ⟨name, hname⟩ := exists_mem_zip_assign hs
    have hmem : screen s name ∈ List.zipWith screen screens (assign (screens.map Screen.name)) := by
      rw [← List.map_uncurry_zip_eq_zipWith]
      exact List.mem_map.mpr ⟨(s, name), hname, rfl⟩
    obtain ⟨ls, hls⟩ := exists_mapM_iff.mp ⟨classes, hclasses⟩ _ hmem
    exact (exists_screen_iff (h s hs)).mp ⟨ls, hls⟩
  · intro hdrawable
    have hclasses : ∃ classes,
        ((List.zipWith screen screens (assign (screens.map Screen.name))).mapM id).result =
          .ok classes := by
      rw [Logged.result_mapM, exists_mapM_iff, ← List.map_uncurry_zip_eq_zipWith]
      intro x hx
      obtain ⟨⟨s, name⟩, hsn, rfl⟩ := List.mem_map.mp hx
      have hs := (List.of_mem_zip hsn).1
      exact (exists_screen_iff (h s hs)).mpr (hdrawable s hs)
    obtain ⟨found, hfound⟩ : ∃ found, (warnings screens).result = .ok found :=
      ⟨_, result_warnings_of fun _ _ e _ => result_target e⟩
    obtain ⟨classes, hclasses⟩ := hclasses
    let code := programLayout dark title screens (assign (screens.map Screen.name)) classes
    refine ⟨⟨sourceText code, found⟩, (Logged.result_bind_of_ok hfound _).trans ?_⟩
    exact (Logged.result_bind_of_ok hclasses _).trans rfl

/-! ## Sanitized batches -/

section

variable {stem : String} {raw : Json}

theorem settled_of_mem_elements (he : e ∈ Sanitize.elements stem raw) :
    e.type.Settled e.properties := by
  obtain ⟨entry, id, rfl⟩ := Sanitize.exists_of_mem_elements he
  exact ComponentType.settled_coerce _ _

theorem canonical_of_mem_elements (he : e ∈ Sanitize.elements stem raw) : e.Canonical := by
  obtain ⟨entry, id, rfl⟩ := Sanitize.exists_of_mem_elements he
  exact Sanitize.canonical_element entry id

/-- The numbers in the widget of a sanitized element are finite. -/
theorem isFinite_of_mem_elementWidget (he : e ∈ Sanitize.elements stem raw) {index : Int}
    {l : Layout} (hl : (elementWidget index e).result = .ok l) {x : Binary64} (hx : x ∈ l.numbers) :
    x.isFinite = true := by
  obtain ⟨c, hc, hwidget⟩ := exists_content hl
  refine isFinite_of_mem_numbers hwidget (fun n hn => ?_) hx
  exact (Element.length_of_settled (settled_of_mem_elements he) hc hn).1

/-- The numbers in the program of a sanitized batch are finite. -/
theorem isFinite_of_mem_designLayout {dark : Bool} {title screenId name : String}
    {ls : List Layout}
    (hls : (designLayout dark title [⟨screenId, name, Sanitize.elements stem raw⟩]).result = .ok ls)
    {x : Binary64} (hx : x ∈ ls.flatMap numbers) : x.isFinite = true := by
  obtain ⟨s, hs, className, classes, hclasses, hx⟩ := numbers_of_designLayout hls hx
  obtain rfl := List.mem_singleton.mp hs
  obtain ⟨e, he, ⟨place, hplace, hx⟩ | ⟨index, inside, hinside, hx⟩⟩ :=
    numbers_of_screen hclasses hx
  · exact isFinite_of_mem_placeRows hplace hx
  · exact isFinite_of_mem_elementWidget he hinside hx

/-- The screen of a sanitized batch has a program exactly if all its elements are drawable. -/
theorem exists_program_of_elements_iff (dark : Bool) (title screenId name : String) :
    (∃ p, (program dark title [⟨screenId, name, Sanitize.elements stem raw⟩]).result = .ok p) ↔
      ∀ e ∈ Sanitize.elements stem raw, e.Drawable := by
  have hcanonical : ∀ s ∈ [(⟨screenId, name, Sanitize.elements stem raw⟩ : Screen)],
      ∀ e ∈ s.elements, e.Canonical :=
    List.forall_mem_singleton.mpr fun e => canonical_of_mem_elements
  rw [exists_program_iff hcanonical, List.forall_mem_singleton]

end

/-- Whatever is in a batch, each of its elements with readable texts and without a number that
is too large has a widget, and a screen of such elements has a program.  This is as much as
can be said: exactly the drawable elements have widgets, exactly the screens of these have
programs, and all that fails is a number that is too large.  Every number in a widget and in
a program is written as digits with one decimal. -/
theorem generation_of_sanitized (stem : String) (raw : Json) (screenId name title : String)
    (dark : Bool) :
    (∀ e ∈ Sanitize.elements stem raw, ∀ index : Int,
      (e.Legible → e.Moderate → ∃ l, (elementWidget index e).result = .ok l) ∧
      ((∃ l, (elementWidget index e).result = .ok l) ↔ e.Drawable) ∧
      (∀ f, e.Legible → (elementWidget index e).result = .error f → f = .tooLarge) ∧
      ∀ l, (elementWidget index e).result = .ok l → ∀ x ∈ l.numbers,
        x.isFinite = true ∧ Binary64.IsOnePlace (Token.number x).text) ∧
    ((∀ e ∈ Sanitize.elements stem raw, e.Legible ∧ e.Moderate) →
      ∃ p, (program dark title [⟨screenId, name, Sanitize.elements stem raw⟩]).result = .ok p) ∧
    ((∃ p, (program dark title [⟨screenId, name, Sanitize.elements stem raw⟩]).result = .ok p) ↔
      ∀ e ∈ Sanitize.elements stem raw, e.Drawable) ∧
    ∀ p, (program dark title [⟨screenId, name, Sanitize.elements stem raw⟩]).result = .ok p →
      ∃ ls, (designLayout dark title [⟨screenId, name, Sanitize.elements stem raw⟩]).result = .ok ls ∧
        p.code = sourceText ls ∧ ∀ x ∈ ls.flatMap numbers,
          x.isFinite = true ∧ Binary64.IsOnePlace (Token.number x).text := by
  have hprogram := @exists_program_of_elements_iff stem raw dark title screenId name
  have hdrawable : ∀ e ∈ Sanitize.elements stem raw, e.Legible → e.Moderate → e.Drawable :=
    fun e he => Element.drawable_of_settled (settled_of_mem_elements he)
  refine ⟨fun e he index => ⟨fun htexts hnumbers => ?_, exists_elementWidget_iff, ?_, ?_⟩,
    fun h => ?_, hprogram, fun p hp => ?_⟩
  · exact exists_elementWidget_iff.mpr (hdrawable e he htexts hnumbers)
  · exact fun f htexts hf => elementWidget_eq_error htexts hf
  · intro l hl x hx
    have hfinite := isFinite_of_mem_elementWidget he hl hx
    exact ⟨hfinite, Binary64.isOnePlace_onePlace hfinite⟩
  · exact hprogram.mpr fun e he => hdrawable e he (h e he).1 (h e he).2
  · obtain ⟨ls, hls, hcode⟩ := exists_designLayout hp
    refine ⟨ls, hls, hcode, fun x hx => ?_⟩
    have hfinite := isFinite_of_mem_designLayout hls hx
    exact ⟨hfinite, Binary64.isOnePlace_onePlace hfinite⟩

/-- A list with its items, and a button whose padding is a text. -/
def sampleBatch : Json :=
  .list
    [.object [("type", .text "list"), ("properties", .object
      [("data", .text "[\x7b\x22title\x22:\x22One\x22\x7d]"), ("itemHeight", .int 100000000000000000000)])],
     .object [("type", .text "button"), ("properties", .object [("padding", .text "12.55")])]]

theorem generation_of_sampleBatch :
    (∀ e ∈ Sanitize.elements "e" sampleBatch, ∃ l, (elementWidget 0 e).result = .ok l) ∧
      ∃ p, (program true "App" [⟨"s", "S", Sanitize.elements "e" sampleBatch⟩]).result = .ok p := by
  have hfit : ∀ e ∈ Sanitize.elements "e" sampleBatch, e.Legible ∧ e.Moderate := by decide +kernel
  have h := generation_of_sanitized "e" sampleBatch "s" "S" "App" true
  exact ⟨fun e he => (h.1 e he 0).1 (hfit e he).1 (hfit e he).2, h.2.1 hfit⟩

/-- A button with a padding. -/
def paddedButton (padding : Nat) : Json :=
  .object [("type", .text "button"), ("properties", .object [("padding", .int padding)])]

/-- A padding that is too large is kept, and then the button cannot be drawn. -/
theorem not_drawable_paddedButton {padding : Nat} (h : Binary64.overflow ≤ padding) (id : String) :
    ¬ (Sanitize.element (paddedButton padding) id).Drawable := by
  have htype : (Sanitize.element (paddedButton padding) id).type = .button := rfl
  have hbag : (Sanitize.element (paddedButton padding) id).properties =
      ComponentType.button.defaults.insert "padding" (.int padding) := rfl
  have hsettled : (Sanitize.element (paddedButton padding) id).type.Settled
      (Sanitize.element (paddedButton padding) id).properties :=
    ComponentType.settled_coerce .button (.object [("padding", .int padding)])
  generalize Sanitize.element (paddedButton padding) id = e at *
  rintro ⟨c, hc, hlengths⟩
  obtain ⟨r, hread, -⟩ := hsettled.exists_read
  have hkey : "padding" ∈ e.type.keysOf .number := by
    rw [htype]
    decide +kernel
  have hpadding := (hsettled.get?_number hread hkey).1
  rw [hbag, Entries.get?_insert_self] at hpadding
  have hr : e.record.result = .ok r := by rw [Element.record_of_read hread]; rfl
  rw [Element.result_content hr, htype] at hc
  cases hc
  have hlength : Number.int padding ∈ Content.lengths (.button (Content.buttonOf r)) :=
    List.mem_singleton.mpr (Json.number.inj (Option.some.inj hpadding))
  exact Nat.not_lt.mpr h (hlengths padding hlength)

/-- A button with a padding of four hundred and one digits is sanitized, but has neither a
widget nor a program. -/
theorem no_program_of_large_padding :
    (∀ e ∈ Sanitize.elements "element" (.list [paddedButton (Nat.pow 10 400)]),
      e.Legible ∧ (elementWidget 0 e).result = .error .tooLarge) ∧
    ¬ ∃ p, (program false "App"
      [⟨"s", "S", Sanitize.elements "element" (.list [paddedButton (Nat.pow 10 400)])⟩]).result =
        .ok p := by
  have hlarge : Binary64.overflow ≤ Nat.pow 10 400 := by decide +kernel
  have hlegible : ∀ e ∈ Sanitize.elements "element" (.list [paddedButton (Nat.pow 10 400)]),
      e.Legible := by decide +kernel
  have hundrawable : ∀ e ∈ Sanitize.elements "element" (.list [paddedButton (Nat.pow 10 400)]),
      ¬ e.Drawable := by
    intro e he
    obtain rfl := List.mem_singleton.mp he
    exact not_drawable_paddedButton hlarge _
  constructor
  · intro e he
    refine ⟨hlegible e he, ?_⟩
    cases hwidget : (elementWidget 0 e).result with
    | ok l => exact absurd (exists_elementWidget_iff.mp ⟨l, hwidget⟩) (hundrawable e he)
    | error f => rw [elementWidget_eq_error (hlegible e he) hwidget]
  · rw [exists_program_of_elements_iff]
    exact fun h => hundrawable _ List.mem_cons_self (h _ List.mem_cons_self)

end Dart

end ScreenDesign
