import ScreenDesign.Proofs.Dart.Tokens
import ScreenDesign.Proofs.Tints

/-!
# The colors of a widget

The colors of a content are tokens of its widget (`color_mem_tokens`), and a button
with a surface names the color of the surface and of its text in two arguments.
-/

namespace ScreenDesign.Dart

open Layout

/-! ## Every color -/

theorem color_mem_button {b : Content.Button} {l : Layout} (h : button b = .ok l) {c : Color}
    (hc : c ∈ b.colors) : Token.color c ∈ l.tokens := by
  obtain ⟨padding, -, rfl⟩ := map_eq_ok.mp h
  rw [Content.Button.colors] at hc
  cases hlook : b.look with
  | outlined =>
      rw [hlook] at hc
      rw [List.mem_singleton.mp hc]
      simp
  | secondary =>
      rw [hlook] at hc
      rcases List.mem_pair.mp hc with rfl | rfl <;> simp [filledButton]
  | filled =>
      rw [hlook] at hc
      rcases List.mem_pair.mp hc with rfl | rfl <;> simp [filledButton]

theorem color_mem_control {c : Control} (state : Option String) {color : Color}
    (hcolor : color ∈ c.colors) : Token.color color ∈ (control state c).tokens := by
  cases c with
  | toggle on disabled active inactive => cases on <;> simp_all [control, Control.colors]
  | checkbox on disabled active => cases on <;> simp_all [control, Control.colors]
  | radio on disabled active group => cases on <;> simp_all [control, Control.colors]

theorem color_mem_choosable {c : Content.Choosable} {index : Int} {color : Color}
    (hcolor : color ∈ c.control.colors) : Token.color color ∈ (choosable c index).tokens := by
  have := color_mem_control (stateOf? c index) hcolor
  rw [choosable, withLabel]
  split <;> simp [this]

theorem color_mem_labeled {l : Content.Labeled} {c : Color}
    (hc : c ∈ l.labelColor :: l.control.colors) : Token.color c ∈ (labeled l).tokens := by
  rcases List.mem_cons.mp hc with rfl | hc
  · cases hfirst : l.labelFirst <;> simp [labeled, hfirst]
  · have := color_mem_control none hc
    cases hfirst : l.labelFirst <;> simp [labeled, hfirst, this]

theorem color_mem_composer {c : Content.Composer} {color : Color}
    (hcolor : color ∈ [c.buttonColor, c.buttonColor.contrast]) :
    Token.color color ∈ (composer c).tokens := by
  rcases List.mem_pair.mp hcolor with rfl | rfl <;> simp [composer]

theorem color_mem_message {m : Content.Message} {c : Color}
    (hc : c ∈ Content.colors (.message m)) : Token.color c ∈ (message m).tokens := by
  simp only [Content.colors, List.mem_cons] at hc
  have hbubble : Token.color m.bubble ∈ (messageColumn m).tokens ∧
      Token.color m.textColor ∈ (messageColumn m).tokens := by
    simp [messageColumn, bubble]
  rcases hc with rfl | rfl | hc
  · cases havatar : m.avatar <;> cases hown : m.isOwn <;> simp [message, havatar, hown, hbubble]
  · cases havatar : m.avatar <;> cases hown : m.isOwn <;> simp [message, havatar, hown, hbubble]
  · split at hc
    · rename_i havatar
      rw [List.mem_singleton.mp hc]
      cases hown : m.isOwn <;> simp [message, havatar, hown]
    · cases hc

theorem color_mem_dropdown {d : Content.Dropdown} {index : Int} {c : Color}
    (hc : c ∈ [d.borderColor, d.backgroundColor]) : Token.color c ∈ (dropdown d index).tokens := by
  rcases List.mem_pair.mp hc with rfl | rfl <;> simp [dropdown, inputBorder]

theorem color_mem_input {i : Content.Input} {c : Color}
    (hc : c ∈ [i.borderColor, i.labelColor]) : Token.color c ∈ (input i).tokens := by
  rcases List.mem_pair.mp hc with rfl | rfl <;> simp [input, inputField, inputBorder]

theorem color_mem_card {c : Content.Card} {l : Layout} (h : card c = .ok l) :
    Token.color c.color ∈ l.tokens := by
  obtain ⟨top, elevation, radius, padding, rfl⟩ := card_eq_ok h
  simp

theorem color_mem_glyph {g : Content.Glyph} {l : Layout} (h : glyph g = .ok l) :
    Token.color g.color ∈ l.tokens := by
  obtain ⟨size, -, rfl⟩ := map_eq_ok.mp h
  simp

theorem color_mem_container {c : Content.Container} {l : Layout} (h : container c = .ok l) :
    Token.color c.color ∈ l.tokens := by
  rw [container] at h
  obtain ⟨padding, -, h⟩ := bind_eq_ok.mp h
  obtain ⟨margin, -, h⟩ := bind_eq_ok.mp h
  obtain ⟨radius, -, h⟩ := bind_eq_ok.mp h
  cases h
  simp

theorem color_mem_grid {g : Content.Grid} {c : Color} (hc : c ∈ g.colors) :
    Token.color c ∈ (grid g).tokens := by
  have htable : Token.color c ∈ (dataTable g).tokens := by
    simp only [Content.Grid.colors, List.mem_append, List.mem_flatten, List.mem_mapIdx] at hc
    rcases hc with hheader | hborder | ⟨stripe, ⟨i, hi, rfl⟩, hstripe⟩
    · cases hshown : g.showHeader <;> simp_all [dataTable]
    · cases hshown : g.showBorder <;> simp_all [dataTable]
    · rw [Option.mem_toList] at hstripe
      have hrow : Token.color c ∈ (dataRow g i (g.table.rows[i])).tokens := by
        simp [dataRow, hstripe]
      have hrows : Token.color c ∈ (g.table.rows.mapIdx (dataRow g)).flatMap tokens :=
        List.mem_flatMap.mpr ⟨_, List.mem_mapIdx.mpr ⟨i, hi, rfl⟩, hrow⟩
      simp [dataTable, hrows]
  simp [grid, htable]

/-- The colors of a content stand in its widget. -/
theorem color_mem_tokens {index : Int} {c : Content} {l : Layout} (h : widget index c = .ok l)
    {color : Color} (hcolor : color ∈ c.colors) : Token.color color ∈ l.tokens := by
  cases c with
  | button b => exact color_mem_button h hcolor
  | card c => rw [List.mem_singleton.mp hcolor]; exact color_mem_card h
  | icon g => rw [List.mem_singleton.mp hcolor]; exact color_mem_glyph h
  | container c => rw [List.mem_singleton.mp hcolor]; exact color_mem_container h
  | choosable c => cases h; exact color_mem_choosable hcolor
  | control c => cases h; exact color_mem_control none hcolor
  | labeled l => cases h; exact color_mem_labeled hcolor
  | composer c => cases h; exact color_mem_composer hcolor
  | message m => cases h; exact color_mem_message hcolor
  | dropdown d => cases h; exact color_mem_dropdown hcolor
  | input i => cases h; exact color_mem_input hcolor
  | grid g => cases h; exact color_mem_grid hcolor
  | textField | list | flex | stack => cases hcolor

/-! ## Surfaces -/

/-- An argument with a color, as tokens. -/
def colorArgument (before : String) (c : Color) : List Token := [.code before, .color c, .code ","]

/-- An argument with a color stands in the source text of a widget. -/
theorem inCode_of_colorArgument {index : Int} {e : Element} {l : Layout}
    (h : (elementWidget index e).result = .ok l) {before : String} {c : Color}
    (hrow : colorArgument before c ∈ l.rows) :
    InCode (sourceText [l]) (before ++ color c ++ ",") := by
  have htext : rowText (colorArgument before c) = before ++ color c ++ "," := by
    rw [← String.toList_inj]
    simp [rowText, rowChars, colorArgument, Token.text]
  exact htext ▸ inCode_of_mem_rows h hrow (List.infix_refl _) (List.cons_ne_nil _ _)

theorem surface_mem_button {b : Content.Button} {l : Layout} (h : button b = .ok l)
    (hlook : b.look = .filled) :
    colorArgument "backgroundColor: " b.color ∈ l.rows ∧
      colorArgument "foregroundColor: " b.color.contrast ∈ l.rows := by
  obtain ⟨padding, -, rfl⟩ := map_eq_ok.mp h
  rw [hlook]
  simp [filledButton, call, argument, colorRow, Layout.rows, rowsAll, colorArgument]

theorem surface_mem_composer (c : Content.Composer) :
    colorArgument "backgroundColor: " c.buttonColor ∈ (composer c).rows ∧
      colorArgument "foregroundColor: " c.buttonColor.contrast ∈ (composer c).rows := by
  simp [composer, call, argument, colorRow, Layout.rows, rowsAll, colorArgument, children, brackets,
    wrap]

end ScreenDesign.Dart
