import ScreenDesign.Content.Basic
import ScreenDesign.Element
import ScreenDesign.Icon

/-!
# The content of a record

`Content.ofRecord` takes a record apart into what it shows.  Colors that are blank
take the default of their field, icons without a proper name are replaced, and
structured values are read, which may leave notices and may fail.

`Element.content` is the content of an element.
-/

namespace ScreenDesign

/-- A text, or another one in the place of an empty text. -/
def orText (s other : String) : String := if s.isEmpty then other else s

/-- A text unless it is empty. -/
def nonEmpty? (s : String) : Option String := if s.isEmpty then none else some s

namespace Content

/-! ## Controls -/

/-- The switch of a record. -/
def toggleOf (r : Record) : Control :=
  .toggle (r.flag "value") (r.isSet "disabled") (r.color "activeColor") (r.color "inactiveColor")

/-- The check box of a record. -/
def checkboxOf (r : Record) : Control :=
  .checkbox (r.flag "value") (r.isSet "disabled") (r.color "activeColor")

/-- The radio button of a record. -/
def radioOf (r : Record) : Control :=
  .radio (r.flag "value") (r.isSet "disabled") (r.color "activeColor") (r.text "groupValue")

/-- A control with the label that a record puts beside it. -/
def labeledOf (r : Record) (control : Control) : Labeled :=
  ⟨control, r.text "label", r.color "labelColor", r.text "labelPosition" = "left"⟩

/-- A control with the label and the state of a record. -/
def choosableOf (r : Record) (control : Control) : Choosable :=
  ⟨control, r.text "label", r.flag "interactive"⟩

/-! ## Components without structured values -/

/-- The look that a keyword names. -/
def lookOf (keyword : String) : ButtonLook :=
  if keyword = "outline" then .outlined
  else if keyword = "secondary" then .secondary
  else .filled

/-- The button of a record. -/
def buttonOf (r : Record) : Button :=
  ⟨r.text "text", lookOf (r.text "variant"), r.flag "rounded", r.color "color",
    r.number "padding", nonEmpty? (r.text "navigateTo")⟩

/-- The text field of a record. -/
def textFieldOf (r : Record) : TextField :=
  ⟨r.text "label", r.text "hint",
    if r.flag "hasIcon" then some (Icon.resolve Icon.standard (.text (r.text "icon"))) else none,
    if r.flag "validation" then some (r.text "validationMessage") else none⟩

/-- The card of a record. -/
def cardOf (r : Record) : Card :=
  ⟨if r.flag "showImage" then some (r.number "imageHeight") else none,
    orText (r.text "title") "Card Title", r.text "subtitle",
    orText (r.text "content") "Card content goes here...",
    r.color "color", r.number "elevation", r.number "borderRadius", r.number "padding"⟩

/-- The icon of a record. -/
def glyphOf (r : Record) : Glyph :=
  ⟨Icon.resolve Icon.standard (.text (r.text "name")), r.color "color", r.number "size"⟩

/-- The container of a record. -/
def containerOf (r : Record) : Container :=
  ⟨r.color "color", r.number "padding", r.number "margin", r.number "borderRadius"⟩

/-- The row or column of a record. -/
def flexOf (direction : Direction) (r : Record) : Flex :=
  ⟨direction, MainAxis.ofJson (.text (r.text "mainAxisAlignment")),
    CrossAxis.ofJson (.text (r.text "crossAxisAlignment")), r.number "padding"⟩

/-- The stack of a record. -/
def stackOf (r : Record) : Stack :=
  ⟨Anchor.ofJson (.text (r.text "alignment")), r.number "padding"⟩

/-- The message composer of a record. -/
def composerOf (r : Record) : Composer :=
  ⟨r.text "placeholder", r.text "buttonText", r.color "buttonColor"⟩

/-- The chat message of a record. -/
def messageOf (r : Record) : Message :=
  ⟨r.text "text", r.flag "isUser", r.flag "avatar", r.flag "timestamp"⟩

/-- The labeled input of a record. -/
def inputOf (r : Record) : Input :=
  ⟨r.text "label", r.text "placeholder", r.text "value", r.text "type", r.flag "required",
    r.flag "disabled", r.color "borderColor", r.color "labelColor"⟩

/-! ## Components with structured values -/

/-- A list item as it is shown at a position.  A missing subtitle is made of the
position, counted from one. -/
def tile (position : Nat) (i : ListItem) : Tile :=
  ⟨i.title, orText i.subtitle ("Description " ++ (position + 1).repr),
    Icon.resolve Icon.listItem (.text i.icon)⟩

/-- The list of a record with its items. -/
def listingOf (r : Record) (items : List ListItem) : Listing :=
  ⟨r.text "direction" = "horizontal", r.flag "scrollable", r.number "itemHeight",
    items.mapIdx tile⟩

/-- The dropdown of a record with its choices. -/
def dropdownOf (r : Record) (choices : List Choice) : Dropdown :=
  ⟨r.text "label", r.text "placeholder", choices, r.text "value", r.flag "required",
    r.flag "disabled", r.color "borderColor", r.color "backgroundColor", r.flag "interactive"⟩

/-- The table of a record with its cells. -/
def gridOf (r : Record) (table : Table) : Grid :=
  ⟨r.text "title", table, r.flag "showHeader", r.flag "showBorder", r.flag "striped",
    r.flag "sortable", r.color "headerColor", r.color "borderColor", r.color "evenRowColor",
    r.color "oddRowColor"⟩

/-- The choices of a dropdown's record. -/
def readChoices (r : Record) : Logged (List Choice) :=
  Structured.readChoices (.text (r.text "options"))

/-! ## Every component -/

/-- What the record of a type shows. -/
def ofRecord (t : ComponentType) (r : Record) : Logged Content :=
  match t with
  | .button => pure (.button (buttonOf r))
  | .textField => pure (.textField (textFieldOf r))
  | .card => pure (.card (cardOf r))
  | .list => do
      let items ← Structured.readItems (.text (r.text "data"))
      pure (.list (listingOf r items))
  | .icon => pure (.icon (glyphOf r))
  | .container => pure (.container (containerOf r))
  | .row => pure (.flex (flexOf .row r))
  | .column => pure (.flex (flexOf .column r))
  | .stack => pure (.stack (stackOf r))
  | .toggle => pure (.choosable (choosableOf r (toggleOf r)))
  | .checkbox => pure (.choosable (choosableOf r (checkboxOf r)))
  | .radio => pure (.control (radioOf r))
  | .chatInput => pure (.composer (composerOf r))
  | .chatMessage => pure (.message (messageOf r))
  | .dropdown => do
      let choices ← readChoices r
      pure (.dropdown (dropdownOf r choices))
  | .inputWithLabel => pure (.input (inputOf r))
  | .toggleWithLabel => pure (.labeled (labeledOf r (toggleOf r)))
  | .radioWithLabel => pure (.labeled (labeledOf r (radioOf r)))
  | .checkboxWithLabel => pure (.labeled (labeledOf r (checkboxOf r)))
  | .dynamicTable => do
      let table ← Structured.readTable (.text (r.text "columns")) (.text (r.text "data"))
      pure (.grid (gridOf r table))

end Content

/-- What an element shows. -/
def Element.content (e : Element) : Logged Content := do
  let r ← e.record
  Content.ofRecord e.type r

end ScreenDesign
