import ScreenDesign.Placement

/-!
# Sanitizing

Any value can be taken as a batch of elements.  A list gives one element for each
entry, in order, and any other value gives none.  Nothing is refused.

* An unknown type becomes the stand-in type.
* A coordinate is rounded and moved onto the canvas, and a size is rounded.  What is
  no number gets a default.
* `fitAxis` then makes the size at least the least size of the type and the element
  lie within the canvas.
* The bag is coerced.
* The ids count the entries.

Each result comes together with the notices of what was replaced.
-/

namespace ScreenDesign.Sanitize

/-! ## Geometry -/

/-- The left edge of an element that gives none. -/
def defaultX : Int := 20

/-- The top edge of an element that gives none. -/
def defaultY : Int := 50

/-- The width of an element that gives none. -/
def defaultWidth : Int := 100

/-- The height of an element that gives none. -/
def defaultHeight : Int := 50

/-- The whole number nearest to what a value is or writes, or a default. -/
def extent (default : Int) (j : Json) : Int := (j.finiteNumber?.bind Number.round?).getD default

/-- The coordinate that a value stands for, between zero and a limit. -/
def coordinate (default limit : Int) (j : Json) : Int := clamp 0 limit (extent default j)

/-- A position and a size on one axis, fitted to a canvas.  The size is raised to
the floor and cut to the canvas.  If the far edge lies outside, the size is cut
further, though not below the floor.  If that is not enough, the position moves
back. -/
def fitAxis (position size floor limit : Int) : Int × Int :=
  let size := max floor (min limit size)
  if position + size ≤ limit then (position, size)
  else
    let size := max floor (limit - position)
    if position + size ≤ limit then (position, size) else (limit - size, size)

/-- A size below the floor is raised, and the position moves back. -/
example : fitAxis 640 5 30 640 = (610, 30) := by decide

/-- A size that reaches over the edge is cut. -/
example : fitAxis 300 100 40 360 = (300, 60) := by decide

/-! ## Elements -/

/-- The type of a raw record, if it is known. -/
def type? (raw : Json) : Option ComponentType := ComponentType.ofJson? (raw.getD "type")

/-- The type of a raw record, or the stand-in type. -/
def typeOf (raw : Json) : ComponentType := (type? raw).getD ComponentType.fallback

/-- The element that a raw value becomes. -/
def element (raw : Json) (id : String) : Element :=
  let t := typeOf raw
  let (x, width) := fitAxis (coordinate defaultX canvas.width (raw.getD "x"))
    (extent defaultWidth (raw.getD "width")) t.floor.width canvas.width
  let (y, height) := fitAxis (coordinate defaultY canvas.height (raw.getD "y"))
    (extent defaultHeight (raw.getD "height")) t.floor.height canvas.height
  ⟨id, t, x, y, width, height, t.coerce (raw.getD "properties")⟩

/-- The notice of an unknown type. -/
def typeNotices (raw : Json) : List Notice :=
  match type? raw with
  | some _ => []
  | none =>
      [⟨.sanitizer, .warning, "Unsupported element type " ++ (raw.getD "type").literal ++
        ", using " ++ ComponentType.fallback.name⟩]

/-- The notices of a raw value. -/
def elementNotices (raw : Json) : List Notice :=
  typeNotices raw ++ (typeOf raw).coercionNotices (raw.getD "properties")

/-- The element that a raw value becomes, with its notices. -/
def elementNoted (raw : Json) (id : String) : Noted Element := ⟨element raw id, elementNotices raw⟩

/-! ## Batches -/

/-- The id of the entry at a position. -/
def entryId (stem : String) (position : Nat) : String := stem ++ "-" ++ position.repr

/-- The elements of a batch. -/
def elements (stem : String) : Json → List Element
  | .list items => items.mapIdx fun i raw => element raw (entryId stem i)
  | _ => []

/-- The notices of a batch. -/
def notices : Json → List Notice
  | .list items =>
      items.flatMap elementNotices ++
        [⟨.sanitizer, .debug, "Sanitized " ++ items.length.repr ++ " element(s)"⟩]
  | .null => []
  | raw => [⟨.sanitizer, .warning, "Expected a list of elements, got " ++ raw.kindName⟩]

/-- The elements of a batch with their notices. -/
def batch (stem : String) (raw : Json) : Noted (List Element) := ⟨elements stem raw, notices raw⟩

/-- The stem of the ids if none is asked for. -/
def defaultStem : String := "element"

/-- Elements as a batch of their stored records. -/
def ofElements (es : List Element) : Json := (Json.list (es.map Element.toJson)).stored

end ScreenDesign.Sanitize
