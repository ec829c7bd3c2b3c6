import ScreenDesign.Element

/-!
# Screens

A screen has an id, a name and a list of elements, later ones on top of earlier
ones.  A design is a list of screens.

`Screen.loadAll` reads a design from the form in which it is stored, and
`Screen.dumpAll` writes that form.  Numbers that are not finite are stored as null.
-/

namespace ScreenDesign

/-- A screen of a design. -/
structure Screen where
  /-- The id, by which other screens lead here. -/
  id : String
  /-- The name. -/
  name : String
  /-- The elements, from bottom to top. -/
  elements : List Element
  deriving DecidableEq

namespace Json

/-- A value read as a list of records. -/
def asList {α : Type} (read : Json → Checked α) : Json → Checked (List α)
  | .list items => Checked.all (items.mapIdx fun i j => (read j).below (.item i))
  | _ => Checked.refuse .notList

end Json

namespace Screen

/-- A screen as a record. -/
def toJson (s : Screen) : Json :=
  .object
    [("id", .text s.id), ("name", .text s.name),
     ("elements", .list (s.elements.map Element.toJson))]

/-- The screen that a record describes. -/
def ofMembers (members : Bag) : Checked Screen :=
  (Checked.pair (.member members "id" Json.asText) <|
    Checked.pair (.member members "name" Json.asText)
      (.memberOr members "elements" [] (Json.asList Element.read))).map
    fun (id, name, elements) => ⟨id, name, elements⟩

/-- The screen that a value describes. -/
def read : Json → Checked Screen
  | .object members => ofMembers members
  | _ => Checked.refuse (.notRecord "Screen")

/-- The screen that a value describes, or the failure with its mismatches. -/
def load (j : Json) : Except Failure Screen := (read j).orFail "Screen"

/-- The first element with an id. -/
def find? (s : Screen) (id : String) : Option Element := s.elements.find? fun e => e.id = id

/-! ## Designs -/

/-- The list of screens inside a value: the value itself, or its member of that
name. -/
def payload : Json → Json
  | .object members => (Json.object members).getD "screens"
  | j => j

/-- The screens of a stored design. -/
def loadAll (j : Json) : Except Failure (List Screen) :=
  match payload j with
  | .list records => records.mapM load
  | _ => .error .notScreens

/-- A design as it is stored. -/
def dumpAll (screens : List Screen) : Json := (Json.list (screens.map toJson)).stored

end Screen

end ScreenDesign
