import ScreenDesign.Json.Basic

/-!
# Icons

An icon is known by its name: a small letter or underscore, followed by small
letters, digits and underscores.  One line break may stand behind a name.  Any
other value is replaced.
-/

namespace ScreenDesign.Icon

/-- Whether a character can start a name. -/
def isStart (c : Char) : Bool := c.isLower || c = '_'

/-- Whether a character can stand in a name. -/
def isPart (c : Char) : Bool := isStart c || c.isDigit

/-- Whether a text is a name. -/
def isName : List Char → Bool
  | [] => false
  | c :: cs => isStart c && cs.all isPart

/-- A text without one line break at its end. -/
def dropBreak (cs : List Char) : List Char :=
  if cs.getLast? = some '\n' then cs.dropLast else cs

/-- The icon of a list item that names none. -/
def listItem : String := "circle"

/-- The icon in any other place where none is named. -/
def standard : String := "star"

/-- The name that a value holds, or the given one. -/
def resolve (fallback : String) : Json → String
  | .text s => if isName (dropBreak s.toList) then s else fallback
  | _ => fallback

end ScreenDesign.Icon
