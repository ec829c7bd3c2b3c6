import ScreenDesign.Preview.Paint
import ScreenDesign.Screen

/-!
# Previews of elements and screens

The preview of an element fills its box.  `positioned` puts the box where the
element lies.  `canvas` shows all elements of a screen in stacking order, and
`byId` keeps one preview for each id: of elements with the same id, the place of
the first one and the preview of the last one.
-/

namespace ScreenDesign

def Element.preview (theme : Theme) (e : Element) : Logged Node := do
  let c ← e.content
  Logged.ofExcept (Paint.content theme c)

namespace Preview

/-- A whole number of pixels. -/
def wholePx (n : Int) : String := (Number.int n).px

/-- A preview in the box of its element. -/
def inBox (e : Element) (inside : Node) : Node :=
  Paint.box "positioned"
    (Paint.style
      [("position", "absolute"), ("left", wholePx e.x), ("top", wholePx e.y),
       ("width", wholePx e.width), ("height", wholePx e.height)])
    [("id", .text e.id), ("type", .text e.type.name)] [inside]

/-- The preview of an element in its box. -/
def positioned (theme : Theme) (e : Element) : Logged Node := do
  let inside ← e.preview theme
  pure (inBox e inside)

/-- The canvas of a screen with its boxes. -/
def onCanvas (theme : Theme) (s : Screen) (boxes : List Node) : Node :=
  Paint.box "canvas"
    (Paint.style
      [("position", "relative"), ("width", wholePx canvas.width),
       ("height", wholePx canvas.height), ("backgroundColor", theme.canvas.hex)])
    [("id", .text s.id), ("name", .text s.name)] boxes

/-- The preview of a screen. -/
def screen (theme : Theme) (s : Screen) : Logged Node := do
  let boxes ← s.elements.mapM (positioned theme)
  pure (onCanvas theme s boxes)

/-- The previews of a screen's elements under their ids. -/
def byId (theme : Theme) (s : Screen) : Logged (Entries Node) := do
  let boxes ← s.elements.mapM (positioned theme)
  pure (Entries.ofPairs ((s.elements.map Element.id).zip boxes))

end Preview

end ScreenDesign
