import ScreenDesign.Component.Field

/-!
# The palette

What is known about a component type besides its fields: a description, the size
that a placed element starts with, the least size an element may have, and the
editors that a panel of properties shows.

Every default size is at least the least size and fits the canvas.
-/

namespace ScreenDesign

/-- A width and a height. -/
structure Size where
  width : Nat
  height : Nat
  deriving DecidableEq

/-- The size of the canvas that every screen is drawn on. -/
def canvas : Size := ⟨360, 640⟩

/-- A choice: what is shown, and the value that it stands for. -/
structure Choice where
  label : String
  value : String
  deriving DecidableEq

/-- A choice as a record. -/
def Choice.toJson (c : Choice) : Json :=
  .object [("label", .text c.label), ("value", .text c.value)]

/-- The way in which a property is edited. -/
inductive EditorKind where
  | text
  | number
  | boolean
  | select
  | color
  | screen
  | options
  | columns
  | json
  deriving DecidableEq

/-- The name of a way of editing. -/
def EditorKind.name : EditorKind → String
  | .text => "text"
  | .number => "number"
  | .boolean => "boolean"
  | .select => "select"
  | .color => "color"
  | .screen => "screen"
  | .options => "options"
  | .columns => "columns"
  | .json => "json"

/-- An editor of a property. -/
structure Editor where
  /-- The key of the property. -/
  key : String
  /-- What the editor is called. -/
  label : String
  /-- How the property is edited. -/
  kind : EditorKind
  /-- The values to select from. -/
  choices : List Choice
  deriving DecidableEq

namespace Editor

/-- An editor that selects from choices. -/
def select (key label : String) (choices : List Choice) : Editor := ⟨key, label, .select, choices⟩

/-- An editor as a record.  Choices are only named if there are any. -/
def toJson (e : Editor) : Json :=
  .object ([("name", .text e.key), ("label", .text e.label), ("type", .text e.kind.name)] ++
    if e.choices.isEmpty then [] else [("options", .list (e.choices.map Choice.toJson))])

end Editor

namespace ComponentType

/-! ## Sizes -/

/-- One line on what a component of the type is. -/
def description : ComponentType → String
  | .button => "Tappable action with optional screen navigation"
  | .textField => "Single-line text entry with label and hint"
  | .card => "Elevated surface with image, title, subtitle and body"
  | .list => "Scrollable list of titled items"
  | .icon => "Material icon glyph"
  | .container => "Colored box; also the fallback for unknown types"
  | .row => "Horizontal flex placeholder"
  | .column => "Vertical flex placeholder"
  | .stack => "Overlapping layers anchored to one of nine positions"
  | .toggle => "On/off toggle, optionally stateful"
  | .checkbox => "Check box, optionally stateful"
  | .radio => "Single radio button"
  | .chatInput => "Message composer with send button"
  | .chatMessage => "Chat bubble aligned by sender"
  | .dropdown => "Labeled select box, optionally stateful"
  | .inputWithLabel => "Text input with a label above it"
  | .toggleWithLabel => "Switch with a side label"
  | .radioWithLabel => "Radio button with a side label"
  | .checkboxWithLabel => "Check box with a side label"
  | .dynamicTable => "Data table driven by column and row JSON"

/-- The size of a newly placed element. -/
def defaultSize : ComponentType → Size
  | .button => ⟨120, 40⟩
  | .textField => ⟨200, 56⟩
  | .card => ⟨300, 200⟩
  | .list => ⟨300, 300⟩
  | .icon => ⟨24, 24⟩
  | .container => ⟨200, 200⟩
  | .row => ⟨300, 50⟩
  | .column => ⟨200, 200⟩
  | .stack => ⟨200, 200⟩
  | .toggle => ⟨60, 24⟩
  | .checkbox => ⟨24, 24⟩
  | .radio => ⟨24, 24⟩
  | .chatInput => ⟨300, 50⟩
  | .chatMessage => ⟨250, 80⟩
  | .dropdown => ⟨200, 70⟩
  | .inputWithLabel => ⟨200, 70⟩
  | .toggleWithLabel => ⟨200, 40⟩
  | .radioWithLabel => ⟨200, 40⟩
  | .checkboxWithLabel => ⟨200, 40⟩
  | .dynamicTable => ⟨350, 200⟩

/-- The least size of an element. -/
def floor : ComponentType → Size
  | .icon => ⟨20, 20⟩
  | .toggle => ⟨40, 20⟩
  | .checkbox => ⟨20, 20⟩
  | .radio => ⟨20, 20⟩
  | _ => ⟨50, 30⟩

/-- The name of the record that the fields of a type form. -/
def recordName : ComponentType → String
  | .button => "ButtonProperties"
  | .textField => "TextFieldProperties"
  | .card => "CardProperties"
  | .list => "ListProperties"
  | .icon => "IconProperties"
  | .container => "ContainerProperties"
  | .row => "FlexProperties"
  | .column => "FlexProperties"
  | .stack => "StackProperties"
  | .toggle => "SwitchProperties"
  | .checkbox => "CheckboxProperties"
  | .radio => "RadioProperties"
  | .chatInput => "ChatInputProperties"
  | .chatMessage => "ChatMessageProperties"
  | .dropdown => "DropdownProperties"
  | .inputWithLabel => "InputWithLabelProperties"
  | .toggleWithLabel => "SwitchWithLabelProperties"
  | .radioWithLabel => "RadioWithLabelProperties"
  | .checkboxWithLabel => "CheckboxWithLabelProperties"
  | .dynamicTable => "DynamicTableProperties"

/-! ## Editors -/

def buttonEditors : List Editor :=
  [⟨"text", "Text", .text, []⟩,
   .select "variant" "Variant"
      [⟨"Primary", "primary"⟩, ⟨"Secondary", "secondary"⟩, ⟨"Outline", "outline"⟩],
   ⟨"rounded", "Rounded", .boolean, []⟩,
   ⟨"color", "Color", .color, []⟩,
   ⟨"textColor", "Text Color", .color, []⟩,
   ⟨"padding", "Padding", .number, []⟩,
   ⟨"navigateTo", "Navigate To Screen", .screen, []⟩]

def textFieldEditors : List Editor :=
  [⟨"hint", "Hint Text", .text, []⟩,
   ⟨"label", "Label", .text, []⟩,
   ⟨"hasIcon", "Has Icon", .boolean, []⟩,
   ⟨"icon", "Icon", .text, []⟩,
   ⟨"validation", "Enable Validation", .boolean, []⟩,
   ⟨"validationMessage", "Validation Message", .text, []⟩]

def cardEditors : List Editor :=
  [⟨"title", "Title", .text, []⟩,
   ⟨"subtitle", "Subtitle", .text, []⟩,
   ⟨"content", "Content", .text, []⟩,
   ⟨"showImage", "Show Image", .boolean, []⟩,
   ⟨"imageHeight", "Image Height", .number, []⟩,
   ⟨"elevation", "Elevation", .number, []⟩,
   ⟨"borderRadius", "Border Radius", .number, []⟩,
   ⟨"color", "Background Color", .color, []⟩,
   ⟨"padding", "Padding", .number, []⟩]

def listEditors : List Editor :=
  [.select "direction" "Direction"
      [⟨"Vertical", "vertical"⟩, ⟨"Horizontal", "horizontal"⟩],
   ⟨"scrollable", "Scrollable", .boolean, []⟩,
   ⟨"itemHeight", "Item Height", .number, []⟩,
   ⟨"data", "List Data", .json, []⟩]

def iconEditors : List Editor :=
  [⟨"name", "Icon Name", .text, []⟩,
   ⟨"color", "Color", .color, []⟩,
   ⟨"size", "Size", .number, []⟩]

def containerEditors : List Editor :=
  [⟨"color", "Color", .color, []⟩,
   ⟨"padding", "Padding", .number, []⟩,
   ⟨"margin", "Margin", .number, []⟩,
   ⟨"borderRadius", "Border Radius", .number, []⟩]

/-- The editors of a row and a column. -/
def flexEditors : List Editor :=
  [.select "mainAxisAlignment" "Main Axis Alignment"
      [⟨"Start", "start"⟩, ⟨"Center", "center"⟩, ⟨"End", "end"⟩,
       ⟨"Space Between", "spaceBetween"⟩, ⟨"Space Around", "spaceAround"⟩,
       ⟨"Space Evenly", "spaceEvenly"⟩],
   .select "crossAxisAlignment" "Cross Axis Alignment"
      [⟨"Start", "start"⟩, ⟨"Center", "center"⟩, ⟨"End", "end"⟩, ⟨"Stretch", "stretch"⟩],
   ⟨"padding", "Padding", .number, []⟩]

def stackEditors : List Editor :=
  [.select "alignment" "Alignment"
      [⟨"Top Left", "topLeft"⟩, ⟨"Top Center", "topCenter"⟩, ⟨"Top Right", "topRight"⟩,
       ⟨"Center Left", "centerLeft"⟩, ⟨"Center", "center"⟩,
       ⟨"Center Right", "centerRight"⟩, ⟨"Bottom Left", "bottomLeft"⟩,
       ⟨"Bottom Center", "bottomCenter"⟩, ⟨"Bottom Right", "bottomRight"⟩],
   ⟨"padding", "Padding", .number, []⟩]

/-- The editors of a switch. -/
def toggleEditors : List Editor :=
  [⟨"label", "Label", .text, []⟩,
   ⟨"value", "Initial Value", .boolean, []⟩,
   ⟨"activeColor", "Active Color", .color, []⟩,
   ⟨"inactiveColor", "Inactive Color", .color, []⟩,
   ⟨"interactive", "Interactive", .boolean, []⟩]

/-- The editors of a check box. -/
def checkboxEditors : List Editor :=
  [⟨"label", "Label", .text, []⟩,
   ⟨"value", "Initial Value", .boolean, []⟩,
   ⟨"activeColor", "Active Color", .color, []⟩,
   ⟨"interactive", "Interactive", .boolean, []⟩]

/-- The editors of a radio button. -/
def radioEditors : List Editor :=
  [⟨"value", "Value", .boolean, []⟩,
   ⟨"activeColor", "Active Color", .color, []⟩,
   ⟨"groupValue", "Group Value", .text, []⟩]

/-- The editors of a message composer. -/
def chatInputEditors : List Editor :=
  [⟨"placeholder", "Placeholder", .text, []⟩,
   ⟨"buttonText", "Button Text", .text, []⟩,
   ⟨"buttonColor", "Button Color", .color, []⟩]

def chatMessageEditors : List Editor :=
  [⟨"text", "Message Text", .text, []⟩,
   ⟨"isUser", "Is User Message", .boolean, []⟩,
   ⟨"avatar", "Show Avatar", .boolean, []⟩,
   ⟨"timestamp", "Show Timestamp", .boolean, []⟩]

def dropdownEditors : List Editor :=
  [⟨"label", "Label", .text, []⟩,
   ⟨"placeholder", "Placeholder", .text, []⟩,
   ⟨"options", "Options", .options, []⟩,
   ⟨"value", "Initial Value", .text, []⟩,
   ⟨"required", "Required", .boolean, []⟩,
   ⟨"disabled", "Disabled", .boolean, []⟩,
   ⟨"borderColor", "Border Color", .color, []⟩,
   ⟨"backgroundColor", "Background Color", .color, []⟩,
   ⟨"interactive", "Interactive", .boolean, []⟩]

/-- The editors of a labeled input. -/
def inputWithLabelEditors : List Editor :=
  [⟨"label", "Label Text", .text, []⟩,
   ⟨"placeholder", "Placeholder", .text, []⟩,
   ⟨"value", "Value", .text, []⟩,
   .select "type" "Input Type"
      [⟨"Text", "text"⟩, ⟨"Email", "email"⟩, ⟨"Password", "password"⟩,
       ⟨"Number", "number"⟩, ⟨"Tel", "tel"⟩],
   ⟨"required", "Required", .boolean, []⟩,
   ⟨"disabled", "Disabled", .boolean, []⟩,
   ⟨"borderColor", "Border Color", .color, []⟩,
   ⟨"labelColor", "Label Color", .color, []⟩]

/-- The editors of a labeled switch. -/
def toggleWithLabelEditors : List Editor :=
  [⟨"label", "Label Text", .text, []⟩,
   ⟨"value", "Value", .boolean, []⟩,
   ⟨"activeColor", "Active Color", .color, []⟩,
   ⟨"inactiveColor", "Inactive Color", .color, []⟩,
   .select "labelPosition" "Label Position"
      [⟨"Left", "left"⟩, ⟨"Right", "right"⟩],
   ⟨"disabled", "Disabled", .boolean, []⟩,
   ⟨"labelColor", "Label Color", .color, []⟩]

/-- The editors of a labeled radio button. -/
def radioWithLabelEditors : List Editor :=
  [⟨"label", "Label Text", .text, []⟩,
   ⟨"value", "Value", .boolean, []⟩,
   ⟨"activeColor", "Active Color", .color, []⟩,
   ⟨"groupValue", "Group Value", .text, []⟩,
   .select "labelPosition" "Label Position"
      [⟨"Left", "left"⟩, ⟨"Right", "right"⟩],
   ⟨"disabled", "Disabled", .boolean, []⟩,
   ⟨"labelColor", "Label Color", .color, []⟩]

/-- The editors of a labeled check box. -/
def checkboxWithLabelEditors : List Editor :=
  [⟨"label", "Label Text", .text, []⟩,
   ⟨"value", "Value", .boolean, []⟩,
   ⟨"activeColor", "Active Color", .color, []⟩,
   .select "labelPosition" "Label Position"
      [⟨"Left", "left"⟩, ⟨"Right", "right"⟩],
   ⟨"disabled", "Disabled", .boolean, []⟩,
   ⟨"labelColor", "Label Color", .color, []⟩]

def dynamicTableEditors : List Editor :=
  [⟨"title", "Table Title", .text, []⟩,
   ⟨"columns", "Columns", .columns, []⟩,
   ⟨"data", "Table Data", .json, []⟩,
   ⟨"showHeader", "Show Header", .boolean, []⟩,
   ⟨"showBorder", "Show Border", .boolean, []⟩,
   ⟨"striped", "Striped Rows", .boolean, []⟩,
   ⟨"sortable", "Sortable", .boolean, []⟩,
   ⟨"headerColor", "Header Color", .color, []⟩,
   ⟨"borderColor", "Border Color", .color, []⟩,
   ⟨"evenRowColor", "Even Row Color", .color, []⟩,
   ⟨"oddRowColor", "Odd Row Color", .color, []⟩]

/-- The editors of a type, in the order of the panel. -/
def editors : ComponentType → List Editor
  | .button => buttonEditors
  | .textField => textFieldEditors
  | .card => cardEditors
  | .list => listEditors
  | .icon => iconEditors
  | .container => containerEditors
  | .row => flexEditors
  | .column => flexEditors
  | .stack => stackEditors
  | .toggle => toggleEditors
  | .checkbox => checkboxEditors
  | .radio => radioEditors
  | .chatInput => chatInputEditors
  | .chatMessage => chatMessageEditors
  | .dropdown => dropdownEditors
  | .inputWithLabel => inputWithLabelEditors
  | .toggleWithLabel => toggleWithLabelEditors
  | .radioWithLabel => radioWithLabelEditors
  | .checkboxWithLabel => checkboxWithLabelEditors
  | .dynamicTable => dynamicTableEditors

/-! ## The sizes fit -/

/-- The default size of a type is at least its least size. -/
theorem floor_le_defaultSize (t : ComponentType) :
    t.floor.width ≤ t.defaultSize.width ∧ t.floor.height ≤ t.defaultSize.height := by
  cases t <;> decide

/-- The default size of a type fits the canvas. -/
theorem defaultSize_le_canvas (t : ComponentType) :
    t.defaultSize.width ≤ canvas.width ∧ t.defaultSize.height ≤ canvas.height := by
  cases t <;> decide

/-- Every editor edits a field of its type. -/
theorem editors_subset_keys (t : ComponentType) : ∀ e ∈ t.editors, e.key ∈ t.keys := by
  cases t <;> decide +kernel

end ComponentType

end ScreenDesign
