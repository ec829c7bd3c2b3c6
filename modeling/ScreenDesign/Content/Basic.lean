import ScreenDesign.Alignment
import ScreenDesign.Color
import ScreenDesign.Structured

/-!
# Content

What a component shows, free of the forms in which it can be given.  Colors, icons,
alignments and structured values are resolved here once, and the preview and the
generated program both start from it, so they show the same things.

`Content` has one constructor for each way of drawing.  A row and a column share
one, and so do the three labeled controls.
-/

namespace ScreenDesign

/-! ## Parts -/

inductive ButtonLook where
  | filled
  | secondary
  | outlined
  deriving DecidableEq

/-- The direction of a row or a column. -/
inductive Direction where
  | row
  | column
  deriving DecidableEq

/-- A control that is on or off. -/
inductive Control where
  /-- A switch. -/
  | toggle (on disabled : Bool) (active inactive : Color)
  /-- A check box. -/
  | checkbox (on disabled : Bool) (active : Color)
  /-- A radio button of a group. -/
  | radio (on disabled : Bool) (active : Color) (group : String)
  deriving DecidableEq

def Control.isOn : Control → Bool
  | .toggle on _ _ _ => on
  | .checkbox on _ _ => on
  | .radio on _ _ _ => on

/-- A list item as it is shown. -/
structure Tile where
  title : String
  subtitle : String
  icon : String
  deriving DecidableEq

namespace Content

structure Button where
  text : String
  look : ButtonLook
  rounded : Bool
  color : Color
  padding : Number
  /-- The id of the screen that it leads to. -/
  target : Option String
  deriving DecidableEq

structure TextField where
  label : String
  hint : String
  /-- The icon in front of the hint. -/
  icon : Option String
  /-- The message of a field whose value is refused. -/
  complaint : Option String
  deriving DecidableEq

structure Card where
  /-- The height of the image, if there is one. -/
  imageHeight : Option Number
  title : String
  subtitle : String
  body : String
  color : Color
  elevation : Number
  borderRadius : Number
  padding : Number
  deriving DecidableEq

/-- A list. -/
structure Listing where
  horizontal : Bool
  scrollable : Bool
  itemHeight : Number
  tiles : List Tile
  deriving DecidableEq

/-- An icon. -/
structure Glyph where
  icon : String
  color : Color
  size : Number
  deriving DecidableEq

structure Container where
  color : Color
  padding : Number
  margin : Number
  borderRadius : Number
  deriving DecidableEq

/-- A row or a column. -/
structure Flex where
  direction : Direction
  main : MainAxis
  cross : CrossAxis
  padding : Number
  deriving DecidableEq

structure Stack where
  anchor : Anchor
  padding : Number
  deriving DecidableEq

/-- A switch or a check box with an optional label beside it. -/
structure Choosable where
  control : Control
  label : String
  /-- Whether the generated program keeps its state. -/
  interactive : Bool
  deriving DecidableEq

/-- A control with a colored label on one side. -/
structure Labeled where
  control : Control
  label : String
  labelColor : Color
  labelFirst : Bool
  deriving DecidableEq

/-- A message composer. -/
structure Composer where
  placeholder : String
  buttonText : String
  buttonColor : Color
  deriving DecidableEq

/-- A chat message. -/
structure Message where
  text : String
  /-- Whether the user of the app sent it. -/
  isOwn : Bool
  avatar : Bool
  timestamp : Bool
  deriving DecidableEq

structure Dropdown where
  label : String
  placeholder : String
  choices : List Choice
  value : String
  required : Bool
  disabled : Bool
  borderColor : Color
  backgroundColor : Color
  /-- Whether the generated program keeps its state. -/
  interactive : Bool
  deriving DecidableEq

/-- The value that is selected, if it is one of the choices. -/
def Dropdown.selected? (d : Dropdown) : Option String :=
  if d.value ∈ d.choices.map Choice.value then some d.value else none

/-- A labeled input. -/
structure Input where
  label : String
  placeholder : String
  value : String
  kind : String
  required : Bool
  disabled : Bool
  borderColor : Color
  labelColor : Color
  deriving DecidableEq

/-- A table with what is around it. -/
structure Grid where
  title : String
  table : Table
  showHeader : Bool
  showBorder : Bool
  striped : Bool
  sortable : Bool
  headerColor : Color
  borderColor : Color
  evenColor : Color
  oddColor : Color
  deriving DecidableEq

/-- The color of the row at a position, if rows are striped. -/
def Grid.stripe? (g : Grid) (position : Nat) : Option Color :=
  if g.striped then some (if position % 2 = 0 then g.evenColor else g.oddColor) else none

/-- The text of a cell.  A blank cell shows a dash. -/
def cellText (row : Row) (column : Column) : String :=
  let text := row.cell column.id
  if text.isEmpty then "-" else text

end Content

/-- What a component shows. -/
inductive Content where
  | button (b : Content.Button)
  | textField (f : Content.TextField)
  | card (c : Content.Card)
  | list (l : Content.Listing)
  | icon (g : Content.Glyph)
  | container (c : Content.Container)
  | flex (f : Content.Flex)
  | stack (s : Content.Stack)
  | choosable (c : Content.Choosable)
  | control (c : Control)
  | labeled (l : Content.Labeled)
  | composer (c : Content.Composer)
  | message (m : Content.Message)
  | dropdown (d : Content.Dropdown)
  | input (i : Content.Input)
  | grid (g : Content.Grid)
  deriving DecidableEq

/-! ## Fixed colors and texts -/

namespace Content

/-- The bubble of an own message. -/
def ownBubble : Color := ⟨0x3B, 0x82, 0xF6⟩

/-- The text in an own bubble. -/
def ownText : Color := ⟨0xFF, 0xFF, 0xFF⟩

/-- The avatar beside an own bubble. -/
def ownAvatar : Color := ⟨0x93, 0xC5, 0xFD⟩

/-- The bubble of a message from someone else. -/
def otherBubble : Color := ⟨0xE5, 0xE7, 0xEB⟩

/-- The text in the bubble of someone else. -/
def otherText : Color := ⟨0x1F, 0x29, 0x37⟩

/-- The avatar beside the bubble of someone else. -/
def otherAvatar : Color := ⟨0xD1, 0xD5, 0xDB⟩

/-- The surface of a secondary button. -/
def secondarySurface : Color := ⟨0xE5, 0xE7, 0xEB⟩

/-- The text on a secondary button. -/
def secondaryText : Color := ⟨0x1F, 0x29, 0x37⟩

/-- The time that is shown below a message. -/
def sampleTime : String := "12:34 PM"

namespace Message

/-- The color of a message's bubble. -/
def bubble (m : Message) : Color := if m.isOwn then ownBubble else otherBubble

/-- The color of a message's text. -/
def textColor (m : Message) : Color := if m.isOwn then ownText else otherText

/-- The color of the avatar beside a message. -/
def avatarColor (m : Message) : Color := if m.isOwn then ownAvatar else otherAvatar

end Message

end Content

end ScreenDesign
