import ScreenDesign.Component.Type
import ScreenDesign.Json.Writer

/-!
# Fields

Each component type has a record of typed fields.  A field has a key in the
property bag, a second name under which it may also be given, a kind and a default.
A structured field holds JSON text that describes a list of records.

`fields` is the one table of all this.  The default bag of a type, the kinds of its
keys and the reading of records all come from it.
-/

namespace ScreenDesign

/-- The kind of value that a field holds. -/
inductive FieldKind where
  | text
  | number
  | boolean
  | structured
  deriving DecidableEq

def FieldKind.name : FieldKind → String
  | .text => "text"
  | .number => "number"
  | .boolean => "boolean"
  | .structured => "structured"

inductive FieldValue where
  | text (s : String)
  | number (n : Number)
  | flag (b : Bool)
  deriving DecidableEq

/-- A field's value as it stands in a bag. -/
def FieldValue.toJson : FieldValue → Json
  | .text s => .text s
  | .number n => .number n
  | .flag b => .bool b

/-- Whether a value is of a kind. -/
def FieldKind.holds : FieldKind → FieldValue → Bool
  | .text, .text _ => true
  | .number, .number _ => true
  | .boolean, .flag _ => true
  | .structured, .text _ => true
  | _, _ => false

/-- A field of a component. -/
structure Field where
  /-- The key in the property bag. -/
  key : String
  /-- The other name it may be given under. -/
  name : String
  /-- The kind of value it holds. -/
  kind : FieldKind
  /-- The value it has when none is given. -/
  default : FieldValue
  deriving DecidableEq

namespace Field

/-- A field that holds a text. -/
def text (key name default : String) : Field := ⟨key, name, .text, .text default⟩

/-- A field that holds a number. -/
def number (key name : String) (default : Int) : Field :=
  ⟨key, name, .number, .number (.int default)⟩

/-- A field that holds a truth value. -/
def flag (key name : String) (default : Bool) : Field := ⟨key, name, .boolean, .flag default⟩

/-- A field that holds records as JSON text. -/
def structured (key name : String) (default : List Bag) : Field :=
  ⟨key, name, .structured, .text (Json.list (default.map Json.object)).compact⟩

end Field

/-! ## The table -/

namespace ComponentType

def buttonFields : List Field :=
  [.text "text" "text" "Button",
   .text "variant" "variant" "primary",
   .flag "rounded" "rounded" true,
   .text "color" "color" "#2196F3",
   .text "textColor" "text_color" "#FFFFFF",
   .number "padding" "padding" 16,
   .text "navigateTo" "navigate_to" ""]

def textFieldFields : List Field :=
  [.text "hint" "hint" "Enter text",
   .text "label" "label" "Label",
   .flag "hasIcon" "has_icon" false,
   .text "icon" "icon" "search",
   .flag "validation" "validation" false,
   .text "validationMessage" "validation_message" "Please enter a valid value"]

def cardFields : List Field :=
  [.number "elevation" "elevation" 2,
   .number "borderRadius" "border_radius" 8,
   .text "color" "color" "#FFFFFF",
   .number "padding" "padding" 16,
   .text "title" "title" "Card Title",
   .text "subtitle" "subtitle" "Card Subtitle",
   .text "content" "content"
      ("This is the main content of the card. " ++
        "You can add any text or description here."),
   .flag "showImage" "show_image" true,
   .number "imageHeight" "image_height" 120]

def listFields : List Field :=
  [.text "direction" "direction" "vertical",
   .flag "scrollable" "scrollable" true,
   .number "itemCount" "item_count" 5,
   .number "itemHeight" "item_height" 50,
   .structured "data" "data"
      [[("title", .text "Item 1"), ("subtitle", .text "Description 1"), ("icon", .text "star")],
       [("title", .text "Item 2"), ("subtitle", .text "Description 2"), ("icon", .text "favorite")],
       [("title", .text "Item 3"), ("subtitle", .text "Description 3"), ("icon", .text "home")],
       [("title", .text "Item 4"), ("subtitle", .text "Description 4"), ("icon", .text "settings")],
       [("title", .text "Item 5"), ("subtitle", .text "Description 5"), ("icon", .text "person")]]]

def iconFields : List Field :=
  [.text "name" "name" "star",
   .text "color" "color" "#000000",
   .number "size" "size" 24]

def containerFields : List Field :=
  [.text "color" "color" "#E0E0E0",
   .number "padding" "padding" 16,
   .number "margin" "margin" 8,
   .number "borderRadius" "border_radius" 0]

/-- The fields of a row and a column. -/
def flexFields : List Field :=
  [.text "mainAxisAlignment" "main_axis_alignment" "start",
   .text "crossAxisAlignment" "cross_axis_alignment" "center",
   .number "padding" "padding" 8]

def stackFields : List Field :=
  [.text "alignment" "alignment" "center",
   .number "padding" "padding" 8]

/-- The fields of a switch. -/
def toggleFields : List Field :=
  [.text "label" "label" "",
   .flag "value" "value" false,
   .text "activeColor" "active_color" "#2196F3",
   .text "inactiveColor" "inactive_color" "#9E9E9E",
   .flag "interactive" "interactive" false]

/-- The fields of a check box. -/
def checkboxFields : List Field :=
  [.text "label" "label" "",
   .flag "value" "value" false,
   .text "activeColor" "active_color" "#2196F3",
   .flag "interactive" "interactive" false]

/-- The fields of a radio button. -/
def radioFields : List Field :=
  [.flag "value" "value" false,
   .text "activeColor" "active_color" "#2196F3",
   .text "groupValue" "group_value" "option1"]

/-- The fields of a message composer. -/
def chatInputFields : List Field :=
  [.text "placeholder" "placeholder" "Type a message...",
   .text "buttonText" "button_text" "Send",
   .text "buttonColor" "button_color" "#2196F3"]

def chatMessageFields : List Field :=
  [.text "text" "text" "Hello! This is a sample message.",
   .flag "isUser" "is_user" true,
   .flag "avatar" "avatar" true,
   .flag "timestamp" "timestamp" true]

def dropdownFields : List Field :=
  [.text "label" "label" "Select an option",
   .text "placeholder" "placeholder" "Choose...",
   .structured "options" "options"
      [[("label", .text "Option 1"), ("value", .text "option1")],
       [("label", .text "Option 2"), ("value", .text "option2")],
       [("label", .text "Option 3"), ("value", .text "option3")]],
   .text "value" "value" "",
   .flag "required" "required" false,
   .flag "disabled" "disabled" false,
   .text "borderColor" "border_color" "#D1D5DB",
   .text "backgroundColor" "background_color" "#FFFFFF",
   .flag "interactive" "interactive" false]

/-- The fields of a labeled input. -/
def inputWithLabelFields : List Field :=
  [.text "label" "label" "Input Label",
   .text "placeholder" "placeholder" "Enter text...",
   .text "value" "value" "",
   .text "type" "input_type" "text",
   .flag "required" "required" false,
   .flag "disabled" "disabled" false,
   .text "borderColor" "border_color" "#D1D5DB",
   .text "labelColor" "label_color" "#374151"]

/-- The fields of a labeled switch. -/
def toggleWithLabelFields : List Field :=
  [.text "label" "label" "Toggle Switch",
   .flag "value" "value" false,
   .text "activeColor" "active_color" "#2196F3",
   .text "inactiveColor" "inactive_color" "#9E9E9E",
   .text "labelPosition" "label_position" "right",
   .flag "disabled" "disabled" false,
   .text "labelColor" "label_color" "#374151"]

/-- The fields of a labeled radio button. -/
def radioWithLabelFields : List Field :=
  [.text "label" "label" "Radio Option",
   .flag "value" "value" false,
   .text "activeColor" "active_color" "#2196F3",
   .text "groupValue" "group_value" "option1",
   .text "labelPosition" "label_position" "right",
   .flag "disabled" "disabled" false,
   .text "labelColor" "label_color" "#374151"]

/-- The fields of a labeled check box. -/
def checkboxWithLabelFields : List Field :=
  [.text "label" "label" "Checkbox Option",
   .flag "value" "value" false,
   .text "activeColor" "active_color" "#2196F3",
   .text "labelPosition" "label_position" "right",
   .flag "disabled" "disabled" false,
   .text "labelColor" "label_color" "#374151"]

def dynamicTableFields : List Field :=
  [.text "title" "title" "Data Table",
   .structured "columns" "columns"
      [[("id", .text "name"), ("title", .text "Name"), ("width", .int 120)],
       [("id", .text "email"), ("title", .text "Email"), ("width", .int 180)],
       [("id", .text "role"), ("title", .text "Role"), ("width", .int 100)]],
   .structured "data" "data"
      [[("name", .text "John Doe"), ("email", .text "john@example.com"), ("role", .text "Admin")],
       [("name", .text "Jane Smith"), ("email", .text "jane@example.com"), ("role", .text "User")],
       [("name", .text "Bob Johnson"), ("email", .text "bob@example.com"),
        ("role", .text "Editor")]],
   .flag "showHeader" "show_header" true,
   .flag "showBorder" "show_border" true,
   .flag "striped" "striped" true,
   .text "headerColor" "header_color" "#F3F4F6",
   .text "borderColor" "border_color" "#E5E7EB",
   .text "evenRowColor" "even_row_color" "#FFFFFF",
   .text "oddRowColor" "odd_row_color" "#F9FAFB",
   .flag "sortable" "sortable" true]

/-- The fields of a type, in order. -/
def fields : ComponentType → List Field
  | .button => buttonFields
  | .textField => textFieldFields
  | .card => cardFields
  | .list => listFields
  | .icon => iconFields
  | .container => containerFields
  | .row => flexFields
  | .column => flexFields
  | .stack => stackFields
  | .toggle => toggleFields
  | .checkbox => checkboxFields
  | .radio => radioFields
  | .chatInput => chatInputFields
  | .chatMessage => chatMessageFields
  | .dropdown => dropdownFields
  | .inputWithLabel => inputWithLabelFields
  | .toggleWithLabel => toggleWithLabelFields
  | .radioWithLabel => radioWithLabelFields
  | .checkboxWithLabel => checkboxWithLabelFields
  | .dynamicTable => dynamicTableFields

/-! ## Views of the table -/

/-- The keys of a type's fields. -/
def keys (t : ComponentType) : List String := t.fields.map Field.key

/-- The field of a key. -/
def field? (t : ComponentType) (key : String) : Option Field :=
  t.fields.find? fun f => f.key = key

/-- The kind of value under a key. -/
def kind? (t : ComponentType) (key : String) : Option FieldKind := (t.field? key).map Field.kind

/-- The bag of a type with every field at its default. -/
def defaults (t : ComponentType) : Bag := t.fields.map fun f => (f.key, f.default.toJson)

/-- The default of each field is of its kind. -/
theorem holds_default (t : ComponentType) : ∀ f ∈ t.fields, f.kind.holds f.default = true := by
  cases t <;> simp [fields, buttonFields, textFieldFields, cardFields, listFields, iconFields,
    containerFields, flexFields, stackFields, toggleFields, checkboxFields, radioFields,
    chatInputFields, chatMessageFields, dropdownFields, inputWithLabelFields,
    toggleWithLabelFields, radioWithLabelFields, checkboxWithLabelFields, dynamicTableFields,
    Field.text, Field.number, Field.flag, Field.structured, FieldKind.holds]

/-- No two fields of a type have the same key. -/
theorem keys_nodup (t : ComponentType) : t.keys.Nodup := by
  cases t <;> decide +kernel

end ComponentType

end ScreenDesign
