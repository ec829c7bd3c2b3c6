import ScreenDesign.Content.Basic
import ScreenDesign.Preview.Paint
import ScreenDesign.Proofs.Number.Text

/-!
# Tints

The colors of a content are those that its properties set, or that its kind fixes, and
that are really shown: a check box that is off shows no active color, and a table whose
rows are not striped shows none of the colors of rows (`Content.colors`).

A text is tinted by some colors if behind every `#` in it stand the digits of one of
them (`Tints`).  Such texts can be put together, and six digits behind a `#` are always
those of one of the colors (`Tints.exists_digits`).
-/

namespace ScreenDesign

/-- The colors of a theme in order. -/
def Theme.colors (t : Theme) : List Color :=
  [t.canvas, t.surface, t.text, t.heading, t.muted, t.border, t.placeholder, t.outline,
    t.unchecked, t.error, t.onAccent]

/-- The colors of both themes. -/
def Theme.palette : List Color := light.colors ++ dark.colors

theorem Theme.colors_subset_palette (dark : Bool) : (Theme.of dark).colors ⊆ palette := by
  cases dark with
  | false => exact List.subset_append_left _ _
  | true => exact List.subset_append_right _ _

/-! ## The colors of a content -/

/-- The colors of a control in its state. -/
def Control.colors : Control → List Color
  | .toggle on _ active inactive => [if on then active else inactive]
  | .checkbox on _ active => if on then [active] else []
  | .radio on _ active _ => if on then [active] else []

namespace Content

/-- The colors of a button with its look. -/
def Button.colors (b : Button) : List Color :=
  match b.look with
  | .outlined => [b.color]
  | .secondary => [secondarySurface, secondaryText]
  | .filled => [b.color, b.color.contrast]

/-- The colors of a table: of its head, of its lines and of its rows. -/
def Grid.colors (g : Grid) : List Color :=
  (if g.showHeader then [g.headerColor] else []) ++
    ((if g.showBorder then [g.borderColor] else []) ++
      (g.table.rows.mapIdx fun position _ => (g.stripe? position).toList).flatten)

/-- The colors that a content shows, other than those of the theme. -/
def colors : Content → List Color
  | .button b => b.colors
  | .card c => [c.color]
  | .icon g => [g.color]
  | .container c => [c.color]
  | .choosable c => c.control.colors
  | .control c => c.colors
  | .labeled l => l.labelColor :: l.control.colors
  | .composer c => [c.buttonColor, c.buttonColor.contrast]
  | .message m => m.bubble :: m.textColor :: if m.avatar then [m.avatarColor] else []
  | .dropdown d => [d.borderColor, d.backgroundColor]
  | .input i => [i.borderColor, i.labelColor]
  | .grid g => g.colors
  | .textField _ | .list _ | .flex _ | .stack _ => []

end Content

/-! ## Tinted texts -/

/-- Behind every `#` of a text stand the digits of a color with a property. -/
def Tints (P : Color → Prop) (s : String) : Prop :=
  ∀ before after, s.toList = before ++ '#' :: after → ∃ c, P c ∧ c.digits <+: after

theorem hash_notMem_digits (c : Color) : '#' ∉ c.digits := by
  have hdigit : ∀ n, '#' ≠ Text.hexDigit n := by decide
  simp [Color.digits, Color.channelDigits, hdigit]

namespace Tints

variable {P : Color → Prop} {s t : String}

theorem of_notMem (h : '#' ∉ s.toList) : Tints P s := by
  intro before after hs
  exact absurd (hs ▸ List.mem_append_right before List.mem_cons_self) h

theorem hex {c : Color} (h : P c) : Tints P c.hex := by
  intro before after hs
  rw [Color.hex, String.toList_ofList] at hs
  cases before with
  | nil =>
      cases hs
      exact ⟨c, h, List.prefix_refl _⟩
  | cons b before =>
      have hlater : '#' ∈ c.digits := by
        rw [(List.cons.inj hs).2]
        exact List.mem_append_right before List.mem_cons_self
      exact absurd hlater (hash_notMem_digits c)

theorem append (hs : Tints P s) (ht : Tints P t) : Tints P (s ++ t) := by
  intro before after h
  rw [String.toList_append] at h
  rcases List.append_eq_append_iff.mp h with ⟨between, -, ht'⟩ | ⟨between, hs', hafter⟩
  · exact ht between after ht'
  · cases between with
    | nil => exact ht [] after hafter.symm
    | cons c between =>
        obtain ⟨rfl, rfl⟩ := List.cons.inj hafter
        obtain ⟨c, hc, hprefix⟩ := hs before between hs'
        exact ⟨c, hc, hprefix.trans (List.prefix_append _ _)⟩

/-- Six characters behind a `#` are the digits of a color. -/
theorem exists_digits (h : Tints P s) {ds : List Char} (hlength : ds.length = 6)
    (hds : '#' :: ds <:+: s.toList) : ∃ c, P c ∧ c.digits = ds := by
  obtain ⟨before, after, hs⟩ := hds
  have hsplit : s.toList = before ++ '#' :: (ds ++ after) := by
    rw [← hs, List.append_assoc]
    rfl
  obtain ⟨c, hc, hprefix⟩ := h before (ds ++ after) hsplit
  refine ⟨c, hc, List.IsPrefix.eq_of_length ?_ hlength.symm⟩
  exact List.prefix_of_prefix_length_le hprefix (List.prefix_append ds after)
    (Nat.le_of_eq hlength.symm)

/-- The texts of numbers have no color in them. -/
theorem number (n : Number) : Tints P n.text :=
  of_notMem fun h => absurd (Number.isNumeric_of_mem_text h) (by decide)

theorem px (n : Number) : Tints P n.px := (number n.settle).append (of_notMem (by decide))

end Tints

end ScreenDesign
