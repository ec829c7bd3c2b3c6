import ScreenDesign.Proofs.Preview.Styles

/-!
# The colors of a preview

Each text of a style is tinted by its colors (`StyleText.tints`).  So the styles of a picture are
tinted by the colors of its theme and of its content (`tinted_of_content`).
-/

namespace ScreenDesign

/-- The values of a style are tinted. -/
def TintedStyle (P : Color → Prop) (style : Bag) : Prop := ∀ d ∈ style, Tints P d.2.shown

/-- The styles of a node and of all below it are tinted. -/
def Node.Tinted (P : Color → Prop) (n : Node) : Prop := ∀ m ∈ n.walk, TintedStyle P m.style

variable {P : Color → Prop} {R : Number → Prop}

/-- The color of a shadow is not written as `#RRGGBB`. -/
theorem Tints.shadow (n : Number) :
    Tints P ("0 " ++ n.px ++ " " ++ n.double.px ++ " rgba(0, 0, 0, 0.1)") := by
  have hspace : Tints P " " := .of_notMem (by decide)
  have hfirst : Tints P ("0 " ++ n.px) := .append (.of_notMem (by decide)) (.px _)
  exact ((hfirst.append hspace).append (.px _)).append (.of_notMem (by decide))

theorem StyleText.tints {s : String} (h : StyleText P R s) : Tints P s := by
  cases h with
  | fixed h => exact .of_notMem h.1
  | hex h => exact .hex h
  | solid hwidth h =>
      exact ((Tints.of_notMem hwidth.1).append (.of_notMem (by decide))).append (.hex h)
  | dashed h => exact .append (.of_notMem (by decide)) (.hex h)
  | px _ => exact .px _
  | shadow _ _ => exact .shadow _

/-- The picture of a content has no colors but those of its theme and of the content. -/
theorem Paint.tinted_of_content {theme : Theme} (htheme : ∀ c ∈ theme.colors, P c) {c : Content}
    {n : Node} (h : content theme c = .ok n) (hcolors : ∀ color ∈ c.colors, P color) :
    n.Tinted P := by
  have hstyled : n.Styled P fun _ => True := styled_of_content htheme h hcolors fun _ _ => trivial
  exact fun m hm d hd => (hstyled m hm d hd).tints

end ScreenDesign
