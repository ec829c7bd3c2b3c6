import ScreenDesign.Json.Basic
import ScreenDesign.Text.Basic

/-!
# Alignment

The keywords that place children in a row, a column or a stack.  A keyword may be
spelled in any letter case, with blanks around it and with `-` and `_` anywhere in
it.  An unknown keyword means the first member of its family.
-/

namespace ScreenDesign

/-- The distribution of children along a row or column. -/
inductive MainAxis where
  | atStart
  | centered
  | atEnd
  | spaceBetween
  | spaceAround
  | spaceEvenly
  deriving DecidableEq

/-- The placement of children across a row or column. -/
inductive CrossAxis where
  | atStart
  | centered
  | atEnd
  | stretched
  deriving DecidableEq

/-- The place of the layers of a stack. -/
inductive Anchor where
  | topLeft
  | topCenter
  | topRight
  | centerLeft
  | center
  | centerRight
  | bottomLeft
  | bottomCenter
  | bottomRight
  deriving DecidableEq

/-! ## Keywords -/

/-- The letters that a keyword is known by. -/
def foldKeyword (s : String) : List Char :=
  ((Text.trimBy Text.isBlank s.toList).filter fun c => c ≠ '-' && c ≠ '_').map Char.toLower

/-- The member of a family that a value names. -/
def keyword? {α : Type} (members : List α) (name : α → String) : Json → Option α
  | .text s => members.find? fun m => foldKeyword (name m) = foldKeyword s
  | _ => none

namespace MainAxis

/-- The members of the family. -/
def all : List MainAxis :=
  [.atStart, .centered, .atEnd, .spaceBetween, .spaceAround, .spaceEvenly]

/-- The keyword of a member. -/
def name : MainAxis → String
  | .atStart => "start"
  | .centered => "center"
  | .atEnd => "end"
  | .spaceBetween => "spaceBetween"
  | .spaceAround => "spaceAround"
  | .spaceEvenly => "spaceEvenly"

/-- The member that a value names. -/
def ofJson (j : Json) : MainAxis := (keyword? all name j).getD .atStart

end MainAxis

namespace CrossAxis

/-- The members of the family. -/
def all : List CrossAxis := [.atStart, .centered, .atEnd, .stretched]

/-- The keyword of a member. -/
def name : CrossAxis → String
  | .atStart => "start"
  | .centered => "center"
  | .atEnd => "end"
  | .stretched => "stretch"

/-- The member that a value names. -/
def ofJson (j : Json) : CrossAxis := (keyword? all name j).getD .atStart

end CrossAxis

namespace Anchor

/-- The members of the family. -/
def all : List Anchor :=
  [.topLeft, .topCenter, .topRight, .centerLeft, .center, .centerRight, .bottomLeft,
    .bottomCenter, .bottomRight]

/-- The keyword of a member. -/
def name : Anchor → String
  | .topLeft => "topLeft"
  | .topCenter => "topCenter"
  | .topRight => "topRight"
  | .centerLeft => "centerLeft"
  | .center => "center"
  | .centerRight => "centerRight"
  | .bottomLeft => "bottomLeft"
  | .bottomCenter => "bottomCenter"
  | .bottomRight => "bottomRight"

/-- The member that a value names. -/
def ofJson (j : Json) : Anchor := (keyword? all name j).getD .topLeft

end Anchor

end ScreenDesign
