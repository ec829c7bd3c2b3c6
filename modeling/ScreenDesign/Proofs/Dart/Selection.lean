import Mathlib.Data.List.Nodup
import ScreenDesign.Proofs.Dart.Generation
import ScreenDesign.Proofs.Dart.State
import ScreenDesign.Proofs.Encoding
import ScreenDesign.Proofs.SameContent

/-!
# What a dropdown selects

The program of a dropdown starts with the value in its bag if one of its choices has that value,
and with nothing otherwise.  The items in its snippet are its choices, in order, so a value that it
starts with is the value of an item (`selection_among_items`).

Nothing keeps two choices from having the same value.  The snippet has an item for each of them,
and if that value is selected, several items have it (`two_items_selected`).
-/

namespace ScreenDesign.Dart

open Layout

/-- What a dropdown with a value and choices starts with, and the items that it offers, with their
values and labels. -/
structure Selects (value : String) (choices : List Choice) (start : Option Word)
    (items : List (String × String)) : Prop where
  /-- The items are the choices. -/
  items_eq : items = choices.map fun c => (c.value, c.label)
  /-- The value is selected if it is not empty and a choice has it. -/
  start_eq : start = some
    (if value ≠ "" ∧ value ∈ choices.map Choice.value then .literal value else nullWord)
  /-- Unless nothing is selected, some item has the value that is selected. -/
  offered : start ≠ some nullWord →
    start = some (.literal value) ∧ value ∈ items.map Prod.fst
  /-- As many items have a value as choices do. -/
  as_many : ∀ v, (items.filter fun item => item.1 = v).length =
    (choices.filter fun c => c.value = v).length
  /-- Just one item has the value that is selected, if the choices have different values. -/
  unique : (choices.map Choice.value).Nodup → start ≠ some nullWord →
    (items.filter fun item => item.1 = value).length = 1

/-- The items of a dropdown are its choices. -/
theorem items_sights_dropdown (d : Content.Dropdown) :
    Sight.items (Content.sights (.dropdown d)) = d.choices.map fun c => (c.value, c.label) := by
  rw [Content.sights, Sight.items, List.filterMap_map]
  exact congrFun List.filterMap_eq_map d.choices

/-- What is selected, from the value and the choices. -/
theorem selectionWord_eq_ite (d : Content.Dropdown) :
    selectionWord d =
      if d.value ≠ "" ∧ d.value ∈ d.choices.map Choice.value then .literal d.value
      else nullWord := by
  rw [selectionWord, Content.Dropdown.selected?]
  by_cases hmem : d.value ∈ d.choices.map Choice.value
  · rw [if_pos hmem, Option.bind_some, nonEmpty?]
    by_cases hempty : d.value = ""
    · simp [hempty]
    · simp [hempty, hmem]
  · rw [if_neg hmem, if_neg fun h => hmem h.2]
    rfl

theorem length_filter_items (choices : List Choice) (v : String) :
    ((choices.map fun c => (c.value, c.label)).filter fun item => item.1 = v).length =
      (choices.filter fun c => c.value = v).length := by
  rw [List.filter_map, List.length_map]
  rfl

theorem length_filter_of_nodup {choices : List Choice} (h : (choices.map Choice.value).Nodup)
    {v : String} (hv : v ∈ choices.map Choice.value) :
    (choices.filter fun c => c.value = v).length = 1 := by
  have hcount := List.count_eq_one_of_mem h hv
  rwa [List.count, List.countP_map, List.countP_eq_length_filter] at hcount

theorem selects_of_dropdown (d : Content.Dropdown) :
    Selects d.value d.choices (some (selectionWord d))
      (Sight.items (Content.sights (.dropdown d))) := by
  have hselected (h : some (selectionWord d) ≠ some nullWord) :
      d.value ≠ "" ∧ d.value ∈ d.choices.map Choice.value := by
    by_contra hnone
    exact h (congrArg some ((selectionWord_eq_ite d).trans (if_neg hnone)))
  constructor
  case items_eq => exact items_sights_dropdown d
  case start_eq => exact congrArg some (selectionWord_eq_ite d)
  case offered =>
    intro h
    rw [selectionWord_eq_ite, if_pos (hselected h), items_sights_dropdown, List.map_map]
    exact ⟨rfl, (hselected h).2⟩
  case as_many =>
    rw [items_sights_dropdown]
    exact length_filter_items d.choices
  case unique =>
    intro hdistinct h
    rw [items_sights_dropdown, length_filter_items]
    exact length_filter_of_nodup hdistinct (hselected h).2

/-- What the source text of a dropdown starts with and offers. -/
theorem start_and_items {i : Nat} {e : Element} {field : Option Layout} {l : Layout}
    {d : Content.Dropdown} (hc : e.content.result = .ok (.dropdown d))
    (hfield : (fieldOf i e).result = .ok field) (hl : (elementWidget i e).result = .ok l) :
    ∃ xs, scan (sourceText [l]) = some xs ∧
      start? (declaredIn field) (snippet l) = some (selectionWord d) ∧
      Sight.items (sights xs) = Sight.items (Content.sights (.dropdown d)) := by
  have hwidget := Element.result_elementWidget hc i
  have hdeclared : declaredIn field = declarationOf i (.dropdown d) := by
    rw [fieldOf_eq hfield hc, declaredIn_stateField?]
  refine ⟨lexemes [l], scan_elementWidget hl, ?_, ?_⟩
  · rw [hdeclared]
    exact start?_dropdown (mentions_snippet hl hc)
  · rw [sights_lexemes (iconName_of_mem_iconNames hc) (hwidget.symm.trans hl), Sight.items,
      Sight.items, Sight.filterMap_unbroken _ fun _ => rfl]

/-- Whatever the bag of a dropdown holds, its program starts with nothing or with the value of an
item, which is the only one with that value if no two choices have the same. -/
theorem selection_among_items {i : Nat} {e : Element} {field : Option Layout} {l : Layout}
    (htype : e.type = .dropdown) (hfield : (fieldOf i e).result = .ok field)
    (hl : (elementWidget i e).result = .ok l) :
    ∃ r choices xs, e.record.result = .ok r ∧ (Content.readChoices r).result = .ok choices ∧
      scan (sourceText [l]) = some xs ∧
      Selects (r.text "value") choices (start? (declaredIn field) (snippet l))
        (Sight.items (sights xs)) := by
  obtain ⟨c, hc, -⟩ := exists_content hl
  have hread := hc
  rw [Element.content, Logged.result_bind, bind_eq_ok] at hread
  obtain ⟨r, hr, hread⟩ := hread
  rw [htype, Content.ofRecord, Logged.result_bind, bind_eq_ok] at hread
  obtain ⟨choices, hchoices, hread⟩ := hread
  obtain rfl := Except.ok.inj hread
  obtain ⟨xs, hscan, hstart, hitems⟩ := start_and_items hc hfield hl
  refine ⟨r, choices, xs, hr, hchoices, hscan, ?_⟩
  rw [hstart, hitems]
  exact selects_of_dropdown (Content.dropdownOf r choices)

/-! ## Two sizes -/

/-- The choices between two sizes, as a list of records. -/
def sizeRecords (small large : String) : List Json :=
  [.object [("label", .text "Small"), ("value", .text small)],
   .object [("label", .text "Large"), ("value", .text large)]]

/-- A dropdown for a choice between two sizes, which starts with the small one. -/
def sizeDropdown (interactive : Bool) (small large : String) : Element :=
  ⟨"size", .dropdown, 20, 50, 200, 50,
    [("options", .text (Json.list (sizeRecords small large)).compact), ("value", .text small),
     ("interactive", .bool interactive)]⟩

section

variable (interactive : Bool) (small large : String)

theorem result_readChoices_sizeRecords :
    (Structured.readChoices (.text (Json.list (sizeRecords small large)).compact)).result =
      .ok [⟨"Small", small⟩, ⟨"Large", large⟩] := by
  rw [Structured.result_readChoices (Structured.records?_compact rfl)]
  rfl

theorem content_sizeDropdown :
    ∃ r, (sizeDropdown interactive small large).record.result = .ok r ∧
      r.text "value" = small ∧
      (Content.readChoices r).result = .ok [⟨"Small", small⟩, ⟨"Large", large⟩] ∧
      (sizeDropdown interactive small large).content.result =
        .ok (.dropdown (Content.dropdownOf r [⟨"Small", small⟩, ⟨"Large", large⟩])) := by
  have hchoices := result_readChoices_sizeRecords small large
  refine ⟨_, rfl, rfl, hchoices, ?_⟩
  rw [Element.content, Logged.result_bind_of_ok rfl]
  exact Logged.result_bind_of_ok hchoices _

theorem exists_sizeProgram : ∃ field l,
    (fieldOf 0 (sizeDropdown interactive small large)).result = .ok field ∧
      (elementWidget 0 (sizeDropdown interactive small large)).result = .ok l := by
  obtain ⟨r, -, -, -, hc⟩ := content_sizeDropdown interactive small large
  obtain ⟨field, hfield⟩ := exists_field hc 0
  exact ⟨field, _, hfield, Element.result_elementWidget hc 0⟩

end

/-- With two values, the variable of the dropdown starts with the value of one item. -/
theorem selection_of_sizes :
    ∃ field l xs, (fieldOf 0 (sizeDropdown true "s" "l")).result = .ok field ∧
      (elementWidget 0 (sizeDropdown true "s" "l")).result = .ok l ∧
      scan (sourceText [l]) = some xs ∧
      start? (declaredIn field) (snippet l) = some (.literal "s") ∧
      ((Sight.items (sights xs)).filter fun item => item.1 = "s").length = 1 := by
  obtain ⟨field, l, hfield, hl⟩ := exists_sizeProgram true "s" "l"
  obtain ⟨r, choices, xs, hr, hchoices, hscan, hselects⟩ := selection_among_items rfl hfield hl
  obtain ⟨_, hr', hvalue, hchoices', -⟩ := content_sizeDropdown true "s" "l"
  obtain rfl := Except.ok.inj (hr.symm.trans hr')
  obtain rfl := Except.ok.inj (hchoices.symm.trans hchoices')
  rw [hvalue] at hselects
  have hstart : start? (declaredIn field) (snippet l) = some (.literal "s") := hselects.start_eq
  refine ⟨field, l, xs, hfield, hl, hscan, hstart, hselects.unique (by decide) ?_⟩
  rw [hstart]
  decide

/-- With one value for both sizes, two items have the value that is selected. -/
theorem two_items_selected :
    ∃ field l xs, (fieldOf 0 (sizeDropdown false "x" "x")).result = .ok field ∧
      (elementWidget 0 (sizeDropdown false "x" "x")).result = .ok l ∧
      scan (sourceText [l]) = some xs ∧
      start? (declaredIn field) (snippet l) = some (.literal "x") ∧
      ((Sight.items (sights xs)).filter fun item => item.1 = "x").length = 2 := by
  obtain ⟨field, l, hfield, hl⟩ := exists_sizeProgram false "x" "x"
  obtain ⟨r, -, hvalue, -, hc⟩ := content_sizeDropdown false "x" "x"
  obtain ⟨xs, hscan, hstart, hitems⟩ := start_and_items hc hfield hl
  refine ⟨field, l, xs, hfield, hl, hscan, ?_, ?_⟩
  · rw [hstart, selectionWord_eq_ite, Content.dropdownOf, hvalue]
    rfl
  · rw [hitems]
    rfl

end ScreenDesign.Dart
