import ScreenDesign.Proofs.Preview.Styles

/-!
# The lengths of a preview

A text of a style is measured if its lengths are finite numbers (`StyleText.measured`), and so are
the styles of a picture (`measured_of_content`).

A table shows the width of each column in its head.  So with a head its styles are measured only if
all widths are finite (`isFinite_of_measured_grid`).
-/

namespace ScreenDesign

/-! ## Texts -/

theorem Color.measured_hex (c : Color) : Measured c.hex.toList := by
  have hgap : ∀ n, isGap (Text.hexDigit n) = false := by decide
  have hunit : ∀ n, 'x' ≠ Text.hexDigit n := by decide
  rw [Color.hex, String.toList_ofList]
  refine measured_of_notMem ?_ ?_
  · simp [Color.digits, Color.channelDigits, hgap]
    decide
  · simp [Color.digits, Color.channelDigits, hunit]

theorem Fixed.measured {s : String} (h : Fixed s) : Measured s.toList := fun word hword hlength =>
  ⟨.int (Numeral.ofDigits (word.takeWhile Char.isDigit)), rfl, h.2 word hword hlength⟩

/-- A line is a width, a kind and a color. -/
theorem measured_solid {width : String} (hwidth : Fixed width) (c : Color) :
    Measured (Paint.solid width c).toList := by
  have hchars : (Paint.solid width c).toList =
      width.toList ++ ' ' :: ("solid".toList ++ ' ' :: c.hex.toList) := by
    rw [Paint.solid, String.toList_append, String.toList_append, List.append_assoc]
    rfl
  rw [hchars, measured_append_gap rfl, measured_append_gap rfl]
  exact ⟨hwidth.measured, Fixed.measured (by decide), c.measured_hex⟩

theorem measured_dashed (c : Color) : Measured (Paint.dashed c).toList := by
  have hchars : (Paint.dashed c).toList = "1px dashed".toList ++ ' ' :: c.hex.toList := by
    rw [Paint.dashed, String.toList_append]
    rfl
  rw [hchars, measured_append_gap rfl]
  exact ⟨Fixed.measured (by decide), c.measured_hex⟩

/-- A shadow is two lengths between fixed texts. -/
theorem measured_shadow {n m : Number} (hn : n.isFinite = true) (hm : m.isFinite = true) :
    Measured ("0 " ++ n.px ++ " " ++ m.px ++ " rgba(0, 0, 0, 0.1)").toList := by
  have hchars : ("0 " ++ n.px ++ " " ++ m.px ++ " rgba(0, 0, 0, 0.1)").toList =
      "0".toList ++ ' ' :: (n.px.toList ++ ' ' :: (m.px.toList ++ ' ' ::
        "rgba(0, 0, 0, 0.1)".toList)) := by
    simp only [String.toList_append, List.append_assoc]
    rfl
  rw [hchars, measured_append_gap rfl, measured_append_gap rfl, measured_append_gap rfl,
    measured_px_iff, measured_px_iff]
  exact ⟨Fixed.measured (by decide), hn, hm, Fixed.measured (by decide)⟩

theorem StyleText.measured {P : Color → Prop} {s : String}
    (h : StyleText P (fun n => n.isFinite = true) s) : Measured s.toList := by
  cases h with
  | fixed h => exact h.measured
  | hex _ => exact Color.measured_hex _
  | solid hwidth _ => exact measured_solid hwidth _
  | dashed _ => exact measured_dashed _
  | px h => exact (measured_px_iff _).mpr h
  | shadow h hdouble => exact measured_shadow h hdouble

/-! ## Pictures -/

/-- The lengths in the styles of a node and of all below it are finite. -/
def Node.Measured (n : Node) : Prop :=
  ∀ m ∈ n.walk, ∀ d ∈ m.style, ScreenDesign.Measured d.2.shown.toList

theorem Node.measured_mk {tag : String} {style attrs : Bag} {text : Option String}
    {children : List Node} :
    Node.Measured (.mk tag style text attrs children) ↔
      (∀ d ∈ style, ScreenDesign.Measured d.2.shown.toList) ∧ ∀ m ∈ children, m.Measured := by
  simp only [Node.Measured, walk, walkAll_eq, List.forall_mem_cons, List.forall_mem_flatMap]
  rfl

namespace Paint

variable {theme : Theme}

/-- The picture of a content with finite lengths has only finite lengths. -/
theorem measured_of_content {c : Content} {n : Node} (h : content theme c = .ok n)
    (hlengths : ∀ m ∈ c.measures, m.isFinite = true) : n.Measured := by
  have hstyled : n.Styled (fun _ => True) fun m => m.isFinite = true :=
    styled_of_content (fun _ _ => trivial) h (fun _ _ => trivial) hlengths
  exact fun m hm d hd => (hstyled m hm d hd).measured

/-- The head of a column shows its width. -/
theorem isFinite_of_measured_grid {g : Content.Grid} (h : (grid theme g).Measured)
    (hshown : g.showHeader = true) : ∀ c ∈ g.table.columns, c.width.isFinite = true := by
  intro c hc
  obtain ⟨-, hparts⟩ := Node.measured_mk.mp h
  obtain ⟨-, hrows⟩ := Node.measured_mk.mp
    (hparts _ (List.mem_append_right _ (List.mem_singleton_self _)))
  have hhead := hrows (box "tr" (style [("backgroundColor", g.headerColor.hex)]) []
    (g.table.columns.map (headCell theme g))) (by
      rw [tableRows, if_pos hshown]
      exact List.mem_append_left _ (List.mem_singleton_self _))
  obtain ⟨-, hcells⟩ := Node.measured_mk.mp hhead
  obtain ⟨hstyle, -⟩ := Node.measured_mk.mp (hcells _ (List.mem_map_of_mem hc))
  exact (measured_px_iff c.width).mp (hstyle ("width", .text c.width.px) List.mem_cons_self)

end Paint

end ScreenDesign
