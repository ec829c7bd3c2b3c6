import ScreenDesign.Screen

/-!
# Placement

A new element starts with the default size and the default bag of its type.  It is
dropped at a point, and the point is rounded and moved so that the whole element
lies on the canvas.  A new screen starts empty.

Both get the id that is asked for.  If none is, they get a fresh one, made of the
kind of thing and a random part.
-/

namespace ScreenDesign

/-- The nearest whole number to a value, a half going to the even one. -/
def Json.rounded : Json → Except Failure Int
  | .bool b => .ok (if b then 1 else 0)
  | .number n =>
      match n.round? with
      | some i => .ok i
      | none => .error (.notRounded (n ≠ .float .nan))
  | j => .error (.noRounding j.kindName)

/-- The id that is asked for, or a fresh one. -/
def Json.orFresh (kind random : String) (id : Json) : Json :=
  if id.isTruthy then id else .text (kind ++ "-" ++ random)

/-- The number nearest to `n` between two bounds.  If the bounds cross, the lower
one wins. -/
def clamp (low high n : Int) : Int := max low (min high n)

namespace Element

/-- A new element of a type with its default size and bag, at a point that is moved
onto the canvas. -/
def placed (t : ComponentType) (x y : Int) (id : String) : Element where
  id := id
  type := t
  x := clamp 0 (canvas.width - t.defaultSize.width) x
  y := clamp 0 (canvas.height - t.defaultSize.height) y
  width := t.defaultSize.width
  height := t.defaultSize.height
  properties := t.defaults

/-- A new element of a type, dropped at a point with an id that may be missing. -/
def place (random : String) (t : ComponentType) (x y id : Json) : Except Failure Element := do
  let x ← x.rounded
  let y ← y.rounded
  let id ← ((id.orFresh "element" random).asText.below (.member "id")).orFail "DesignElement"
  pure (placed t x y id)

end Element

namespace Screen

/-- A new screen with a name and an id that may be missing. -/
def create (random : String) (name id : Json) : Except Failure Screen :=
  Checked.orFail "Screen" <|
    (Checked.pair ((id.orFresh "screen" random).asText.below (.member "id"))
      (name.asText.below (.member "name"))).map fun (id, name) => ⟨id, name, []⟩

end Screen

end ScreenDesign
