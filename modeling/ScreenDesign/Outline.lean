import ScreenDesign.Screen

/-!
# Outlines

A screen in text: a line for the screen and one for each element, with the place of
the element and the target of a button.
-/

namespace ScreenDesign.Outline

/-- The target of a button as its bag gives it, if it counts as given. -/
def arrow (e : Element) : List String :=
  let target := (Entries.get? e.properties "navigateTo").getD .null
  if e.type = .button && target.isTruthy then ["-> " ++ target.shown] else []

/-- What is said about an element. -/
def details (e : Element) : List String :=
  [e.type.name,
   decimalText e.width ++ "x" ++ decimalText e.height ++ " @ (" ++ decimalText e.x ++ ", " ++
    decimalText e.y ++ ")"] ++ arrow e

/-- The line of an element, without the connector. -/
def elementLine (e : Element) : String := e.id ++ " [" ++ ", ".intercalate (details e) ++ "]"

/-- The lines of elements, with connectors. -/
def elementLines : List Element → List String
  | [] => []
  | e :: es =>
      ((if es.isEmpty then "└── " else "├── ") ++ elementLine e) :: elementLines es

def screenLine (s : Screen) : String :=
  s.name ++ " [" ++ s.id ++ ", " ++ s.elements.length.repr ++
    (if s.elements.length = 1 then " element]" else " elements]")

/-- The outline of a screen. -/
def ofScreen (s : Screen) : String :=
  "\n".intercalate (screenLine s :: elementLines s.elements)

/-- The outline of a design. -/
def ofDesign (screens : List Screen) : String := "\n\n".intercalate (screens.map ofScreen)

end ScreenDesign.Outline
