import ScreenDesign.Sanitize

/-!
# Editing

Changes to a design.  A screen and an element are named by their ids, and the first
one with an id is meant.  A change to what is not there fails and leaves the design
as it was.
-/

namespace ScreenDesign.Editing

/-! ## Places in a list -/

/-- A list with the first member that has a property changed. -/
def updateFirst {α : Type} (p : α → Bool) (f : α → α) : List α → List α
  | [] => []
  | a :: as => if p a then f a :: as else a :: updateFirst p f as

/-- A list with a member put in at an index.  A negative index counts from the end,
and an index beyond either end means that end. -/
def insertAt {α : Type} (index : Int) (a : α) (as : List α) : List α :=
  let place := (if index < 0 then index + as.length else index).toNat
  as.take place ++ a :: as.drop place

example : [insertAt (-1) 0 [1, 2, 3], insertAt 1 0 [1, 2, 3], insertAt 9 0 [1, 2, 3]] =
    [[1, 2, 0, 3], [1, 0, 2, 3], [1, 2, 3, 0]] := by decide

/-! ## Finding -/

/-- The screen with an id. -/
def screen (design : List Screen) (id : String) : Except Failure Screen :=
  match design.find? fun s => s.id = id with
  | some s => .ok s
  | none => .error (.notFound "screen" id)

/-- The element with an id on a screen. -/
def element (s : Screen) (id : String) : Except Failure Element :=
  match s.find? id with
  | some e => .ok e
  | none => .error (.notFound "element" id)

/-- The element with an id on the screen with an id. -/
def elementOn (design : List Screen) (screenId id : String) : Except Failure Element := do
  let s ← screen design screenId
  element s id

/-! ## Changing -/

/-- The design with a screen changed. -/
def updateScreen (design : List Screen) (id : String) (f : Screen → Screen) :
    Except Failure (List Screen) :=
  (screen design id).map fun _ => updateFirst (fun s => s.id = id) f design

/-- The design with the elements of a screen changed. -/
def updateElements (design : List Screen) (id : String) (f : List Element → List Element) :
    Except Failure (List Screen) :=
  updateScreen design id fun s => { s with elements := f s.elements }

/-- The design with an element changed. -/
def updateElement (design : List Screen) (screenId id : String) (f : Element → Element) :
    Except Failure (List Screen) := do
  let _ ← elementOn design screenId id
  updateElements design screenId (updateFirst (fun e => e.id = id) f)

/-- The design with a screen given another name. -/
def rename (design : List Screen) (id name : String) : Except Failure (List Screen) :=
  updateScreen design id fun s => { s with name := name }

/-- The design without a screen. -/
def dropScreen (design : List Screen) (id : String) : Except Failure (List Screen) :=
  (screen design id).map fun _ => design.eraseP fun s => s.id = id

/-- The design with elements put on top of a screen. -/
def append (design : List Screen) (id : String) (elements : List Element) :
    Except Failure (List Screen) :=
  updateElements design id (· ++ elements)

/-- The design with properties of an element set. -/
def setProperties (design : List Screen) (screenId id : String) (properties : Bag) :
    Except Failure (List Screen) :=
  updateElement design screenId id fun e =>
    { e with properties := Entries.insertAll e.properties properties }

/-- The design with a property of an element taken away. -/
def unsetProperty (design : List Screen) (screenId id key : String) :
    Except Failure (List Screen) :=
  updateElement design screenId id fun e => { e with properties := Entries.erase e.properties key }

/-- A place and a size, as far as they are given. -/
structure Geometry where
  x : Option Int
  y : Option Int
  width : Option Int
  height : Option Int

/-- The design with the place and the size of an element set. -/
def setGeometry (design : List Screen) (screenId id : String) (g : Geometry) :
    Except Failure (List Screen) :=
  updateElement design screenId id fun e =>
    { e with
      x := g.x.getD e.x, y := g.y.getD e.y,
      width := g.width.getD e.width, height := g.height.getD e.height }

/-- The design without an element. -/
def removeElement (design : List Screen) (screenId id : String) : Except Failure (List Screen) := do
  let _ ← elementOn design screenId id
  updateElements design screenId (List.eraseP fun e => e.id = id)

/-- The design with an element moved to an index of its screen. -/
def moveElement (design : List Screen) (screenId id : String) (index : Int) :
    Except Failure (List Screen) := do
  let e ← elementOn design screenId id
  updateElements design screenId fun es => insertAt index e (es.eraseP fun e => e.id = id)

/-- The elements of a screen as a raw batch. -/
def rawElements (design : List Screen) (id : String) : Except Failure Json :=
  (screen design id).map fun s => Sanitize.ofElements s.elements

/-- The design with other elements on a screen. -/
def setElements (design : List Screen) (id : String) (elements : List Element) :
    Except Failure (List Screen) :=
  updateElements design id fun _ => elements

/-- The design as it is after storing and loading it. -/
def reload (design : List Screen) : Except Failure (List Screen) :=
  Screen.loadAll (Screen.dumpAll design)

end ScreenDesign.Editing
