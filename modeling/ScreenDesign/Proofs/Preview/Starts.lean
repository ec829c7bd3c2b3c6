import ScreenDesign.Proofs.Preview.Sights

/-!
# What a preview has switched on and selected

The attributes of a preview tell which controls are on (`checks`), which value of a dropdown is
selected (`selections`), which values it offers (`offers`), and whether the generated program
keeps a state.  They are those of the content (`checks_content`, `selections_dropdown`,
`mem_offers_dropdown`, `interactive_content`).
-/

namespace ScreenDesign

namespace Node

variable {α : Type}

/-- What can be read off a node and all below it. -/
def found (read : Node → Option α) (n : Node) : List α := n.walk.filterMap read

/-- Whether the controls are on. -/
def checks (n : Node) : List Json := n.found fun n => n.attrs.get? "checked"

/-- The values that are selected. -/
def selections (n : Node) : List Json :=
  n.found fun n => if n.tag = "select" then n.attrs.get? "value" else none

/-- The values that can be selected. -/
def offers (n : Node) : List Json :=
  n.found fun n => if n.tag = "option" then n.attrs.get? "value" else none

theorem found_mk (read : Node → Option α) (tag : String) (style : Bag) (text : Option String)
    (attrs : Bag) (children : List Node) :
    (mk tag style text attrs children).found read =
      (read (.mk tag style text attrs children)).toList ++ children.flatMap (found read) := by
  have hbelow : (children.flatMap walk).filterMap read = children.flatMap (found read) :=
    List.filterMap_flatMap
  rw [found, walk, walkAll_eq, List.filterMap_cons, hbelow]
  cases read (.mk tag style text attrs children) with
  | none => rfl
  | some a => rfl

section

variable (tag : String) (style : Bag) (text : Option String) (attrs : Bag) (children : List Node)

theorem checks_mk :
    (mk tag style text attrs children).checks =
      (attrs.get? "checked").toList ++ children.flatMap checks := found_mk ..

theorem selections_mk :
    (mk tag style text attrs children).selections =
      (if tag = "select" then attrs.get? "value" else none).toList ++
        children.flatMap selections := found_mk ..

theorem offers_mk :
    (mk tag style text attrs children).offers =
      (if tag = "option" then attrs.get? "value" else none).toList ++
        children.flatMap offers := found_mk ..

end

end Node

/-- The control that a content has. -/
def Content.control? : Content → Option Control
  | .choosable c => some c.control
  | .control c => some c
  | .labeled l => some l.control
  | _ => none

/-- Whether the generated program keeps the state of a content that can have one. -/
def Content.interactive? : Content → Option Bool
  | .choosable c => some c.interactive
  | .dropdown d => some d.interactive
  | _ => none

namespace Paint

variable (t : Theme)

/-! ## Controls -/

theorem checks_label (s : String) (color : Color) (required : Bool) :
    (label t s color required).checks = [] := by
  cases required <;> rfl

theorem checks_plainLabel (s : String) (required : Bool) :
    (plainLabel t s required).flatMap Node.checks = [] := by
  rw [plainLabel]
  split
  · rfl
  · rw [List.flatMap_singleton, checks_label]

theorem checks_control (k : Control) : (control t k).checks = [.bool k.isOn] := by
  cases k with
  | toggle on disabled active inactive => rfl
  | checkbox on disabled active => cases on <;> rfl
  | radio on disabled active group => cases on <;> rfl

theorem checks_centered (k : Control) (s : String) {attrs : Bag}
    (h : attrs.get? "checked" = none) : (centered t k s attrs).checks = [.bool k.isOn] := by
  rw [centered, box, Node.checks_mk, h, List.flatMap_cons, checks_control, checks_plainLabel]
  rfl

theorem checks_labeled (l : Content.Labeled) : (labeled t l).checks = [.bool l.control.isOn] := by
  rw [labeled, box, Node.checks_mk]
  split <;> simp [checks_control, checks_label, Entries.get?]

/-- A picture shows the control of its content on or off. -/
theorem checks_content {c : Content} {k : Control} (hk : c.control? = some k) :
    ∃ n, content t c = .ok n ∧ n.checks = [.bool k.isOn] := by
  cases c with
  | choosable c =>
      cases hk
      exact ⟨_, rfl, checks_centered t c.control c.label rfl⟩
  | control k =>
      cases hk
      exact ⟨_, rfl, checks_centered t k "" rfl⟩
  | labeled l =>
      cases hk
      exact ⟨_, rfl, checks_labeled t l⟩
  | _ => cases hk

/-! ## Dropdowns -/

variable (d : Content.Dropdown)

theorem selections_options : (options d).flatMap Node.selections = [] := by
  rw [options, List.flatMap_append, List.flatMap_map, List.append_eq_nil_iff]
  refine ⟨?_, List.flatMap_eq_nil_iff.mpr fun c _ => rfl⟩
  split <;> rfl

theorem selections_plainLabel (s : String) (required : Bool) :
    (plainLabel t s required).flatMap Node.selections = [] := by
  rw [plainLabel]
  split
  · rfl
  · cases required <;> rfl

/-- A dropdown shows its selected value, or the empty value. -/
theorem selections_dropdown :
    (dropdown t d).selections = [.text (d.selected?.getD "")] := by
  rw [dropdown, box, box, Node.selections_mk, List.flatMap_append, selections_plainLabel,
    List.flatMap_singleton, Node.selections_mk, selections_options]
  rfl

/-- It offers the values of all choices. -/
theorem mem_offers_dropdown {v : String} (h : v ∈ d.choices.map Choice.value) :
    .text v ∈ (dropdown t d).offers := by
  obtain ⟨c, hc, rfl⟩ := List.mem_map.mp h
  have hoption : .text c.value ∈ (option c.label c.value).offers := List.mem_singleton.mpr rfl
  have hoptions : option c.label c.value ∈ options d :=
    List.mem_append_right _ (List.mem_map.mpr ⟨c, hc, rfl⟩)
  rw [dropdown, box, box, Node.offers_mk, List.flatMap_append, List.flatMap_singleton,
    Node.offers_mk]
  refine List.mem_append_right _ (List.mem_append_right _ (List.mem_append_right _ ?_))
  exact List.mem_flatMap.mpr ⟨_, hoptions, hoption⟩

/-! ## State -/

/-- A picture tells whether the generated program keeps the state of its content. -/
theorem interactive_content {c : Content} {b : Bool} (h : c.interactive? = some b) :
    ∃ n, content t c = .ok n ∧ n.attrs.get? "interactive" = some (.bool b) := by
  cases c with
  | choosable c =>
      cases h
      exact ⟨_, rfl, rfl⟩
  | dropdown d =>
      cases h
      exact ⟨_, rfl, rfl⟩
  | _ => cases h

end Paint

end ScreenDesign
