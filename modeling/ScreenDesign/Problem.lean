import ScreenDesign.Screen

/-!
# Problems

What is wrong with a design: elements off the canvas, too small or without some of
their properties, ids that repeat, and buttons that lead nowhere.  `Problem` is a
cause with what its message needs.  A finding is a problem together with the id of
the element or screen that has it.

* `ofElement` finds the problems of one element.
* `ofScreen` adds the repeated ids of a screen and, if the ids of all screens are
  given, the buttons whose target is none of them.
* `ofDesign` adds the repeated ids of screens.
-/

namespace ScreenDesign

/-- Something wrong with an element, a screen or a design. -/
inductive Problem where
  /-- The top left corner is off the canvas. -/
  | offCanvas (x y : Int)
  /-- The bottom right corner is off the canvas. -/
  | beyondCanvas (right bottom : Int)
  /-- The size is below the least one. -/
  | tooSmall (width height : Int) (type : ComponentType)
  /-- Some keys are missing. -/
  | missingKeys (keys : List String)
  /-- Several elements of a screen have the same id. -/
  | repeatedId (id : String) (count : Nat) (screen : String)
  /-- An earlier screen has the same id. -/
  | repeatedScreen (id : String)
  /-- A button leads to no screen. -/
  | brokenLink (target : String)
  deriving DecidableEq

namespace Problem

/-- The name of the kind of problem. -/
def kind : Problem → String
  | .offCanvas _ _ => "out_of_bounds"
  | .beyondCanvas _ _ => "out_of_bounds"
  | .tooSmall _ _ _ => "below_min_size"
  | .missingKeys _ => "missing_properties"
  | .repeatedId _ _ _ => "duplicate_id"
  | .repeatedScreen _ => "duplicate_screen_id"
  | .brokenLink _ => "unresolved_navigation"

/-- Two numbers in brackets. -/
def pairText (a b : Int) : String := "(" ++ decimalText a ++ ", " ++ decimalText b ++ ")"

/-- Two numbers as a size. -/
def sizeText (a b : Int) : String := decimalText a ++ "x" ++ decimalText b

/-- What a problem says. -/
def message : Problem → String
  | .offCanvas x y => "Position " ++ pairText x y ++ " is off the canvas"
  | .beyondCanvas right bottom =>
      "Element extends to " ++ pairText right bottom ++ ", past the " ++
        sizeText canvas.width canvas.height ++ " canvas"
  | .tooSmall width height t =>
      "Size " ++ sizeText width height ++ " below " ++ t.name ++ " minimum " ++
        sizeText t.floor.width t.floor.height
  | .missingKeys keys => "Missing properties: " ++ ", ".intercalate keys
  | .repeatedId id count screen =>
      "Duplicate ID '" ++ id ++ "' appears " ++ count.repr ++ " times on screen '" ++ screen ++ "'"
  | .repeatedScreen id => "Duplicate screen ID '" ++ id ++ "'"
  | .brokenLink target => "Navigation target '" ++ target ++ "' is not a screen"

end Problem

/-- A problem of something with an id. -/
structure Finding where
  /-- The id. -/
  subject : String
  /-- The problem. -/
  problem : Problem
  deriving DecidableEq

namespace Finding

/-! ## Elements -/

/-- The problem with the place of an element. -/
def bounds (e : Element) : List Problem :=
  if ¬(0 ≤ e.x ∧ e.x ≤ canvas.width ∧ 0 ≤ e.y ∧ e.y ≤ canvas.height) then [.offCanvas e.x e.y]
  else if canvas.width < e.right ∨ canvas.height < e.bottom then [.beyondCanvas e.right e.bottom]
  else []

/-- The problem with the size of an element. -/
def size (e : Element) : List Problem :=
  if e.width < e.type.floor.width ∨ e.height < e.type.floor.height then
    [.tooSmall e.width e.height e.type]
  else []

/-- The keys of the type that the bag of an element lacks, in alphabetical
order. -/
def missing (e : Element) : List String :=
  (e.type.keys.filter fun k => !Entries.has e.properties k).mergeSort fun a b => a ≤ b

/-- The problem with the keys of an element. -/
def keys (e : Element) : List Problem :=
  if (missing e).isEmpty then [] else [.missingKeys (missing e)]

/-- The problems of an element. -/
def ofElement (e : Element) : List Finding :=
  (bounds e ++ size e ++ keys e).map fun p => ⟨e.id, p⟩

/-! ## Screens -/

/-- The members of a list, each at its first place. -/
def distinct : List String → List String
  | [] => []
  | a :: as => a :: (distinct as).filter (· ≠ a)

/-- The ids that repeat on a screen. -/
def repeatedIds (s : Screen) : List Finding :=
  let ids := s.elements.map Element.id
  ((distinct ids).filter fun id => 1 < ids.count id).map fun id =>
    ⟨id, .repeatedId id (ids.count id) s.id⟩

/-- The target of a button, as its bag gives it. -/
def rawTarget? (e : Element) : Option String :=
  if e.type = .button then
    match Entries.get? e.properties "navigateTo" with
    | some (.text s) => if s.isEmpty then none else some s
    | _ => none
  else none

/-- The button that leads to none of the screens. -/
def brokenLink? (screenIds : List String) (e : Element) : Option Finding :=
  match rawTarget? e with
  | some target => if target ∈ screenIds then none else some ⟨e.id, .brokenLink target⟩
  | none => none

/-- The problems of a screen.  Buttons are looked at if the ids of all screens are
given. -/
def ofScreen (s : Screen) (screenIds : Option (List String)) : List Finding :=
  s.elements.flatMap ofElement ++ repeatedIds s ++
    match screenIds with
    | some ids => s.elements.filterMap (brokenLink? ids)
    | none => []

/-! ## Designs -/

/-- The ids that an earlier member of a list has, at each later place.  `seen` are
the members before the list. -/
def repeats (seen : List String) : List String → List String
  | [] => []
  | a :: as => if a ∈ seen then a :: repeats seen as else repeats (a :: seen) as

/-- The problems of a design. -/
def ofDesign (screens : List Screen) : List Finding :=
  let ids := screens.map Screen.id
  (repeats [] ids).map (fun id => ⟨id, .repeatedScreen id⟩) ++
    screens.flatMap fun s => ofScreen s (some ids)

/-- Whether a design has no problems. -/
def isValid (screens : List Screen) : Bool := (ofDesign screens).isEmpty

end Finding

end ScreenDesign
