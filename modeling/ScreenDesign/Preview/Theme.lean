import ScreenDesign.Color

/-!
# Themes

The palette for those parts of a preview whose color no property sets.  There is a
light and a dark one.
-/

namespace ScreenDesign

/-- The colors of a theme. -/
structure Theme where
  /-- The background of a screen. -/
  canvas : Color
  /-- The background of fields and rows. -/
  surface : Color
  /-- Plain text. -/
  text : Color
  /-- Headings. -/
  heading : Color
  /-- Text of less weight. -/
  muted : Color
  /-- The borders of fields. -/
  border : Color
  /-- Surfaces that stand for something else. -/
  placeholder : Color
  /-- The borders of rows, columns and stacks. -/
  outline : Color
  /-- The borders of controls that are off. -/
  unchecked : Color
  /-- What is wrong or required. -/
  error : Color
  /-- Marks on an active control. -/
  onAccent : Color
  deriving DecidableEq

namespace Theme

/-- The light theme. -/
def light : Theme where
  canvas := Color.ofText "#FFFFFF"
  surface := Color.ofText "#FFFFFF"
  text := Color.ofText "#374151"
  heading := Color.ofText "#111827"
  muted := Color.ofText "#6B7280"
  border := Color.ofText "#D1D5DB"
  placeholder := Color.ofText "#D1D5DB"
  outline := Color.ofText "#9CA3AF"
  unchecked := Color.ofText "#9CA3AF"
  error := Color.ofText "#EF4444"
  onAccent := Color.ofText "#FFFFFF"

/-- The dark theme. -/
def dark : Theme where
  canvas := Color.ofText "#121212"
  surface := Color.ofText "#1F2937"
  text := Color.ofText "#D1D5DB"
  heading := Color.ofText "#F3F4F6"
  muted := Color.ofText "#9CA3AF"
  border := Color.ofText "#374151"
  placeholder := Color.ofText "#374151"
  outline := Color.ofText "#6B7280"
  unchecked := Color.ofText "#6B7280"
  error := Color.ofText "#F87171"
  onAccent := Color.ofText "#FFFFFF"

/-- The theme that a flag asks for. -/
def of (isDark : Bool) : Theme := if isDark then dark else light

end Theme

end ScreenDesign
