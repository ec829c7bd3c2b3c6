import ScreenDesign.Json.Basic

/-!
# Component types

The closed vocabulary of components that can be placed on a screen.  A type is
known outside by its name, and a name is matched exactly.
-/

namespace ScreenDesign

inductive ComponentType where
  | button
  | textField
  | card
  | list
  | icon
  | container
  | row
  | column
  | stack
  | toggle
  | checkbox
  | radio
  | chatInput
  | chatMessage
  | dropdown
  | inputWithLabel
  | toggleWithLabel
  | radioWithLabel
  | checkboxWithLabel
  | dynamicTable
  deriving DecidableEq

namespace ComponentType

/-- The types in the order of the palette. -/
def all : List ComponentType :=
  [.button, .textField, .card, .list, .icon, .container, .row, .column, .stack, .toggle,
    .checkbox, .radio, .chatInput, .chatMessage, .dropdown, .inputWithLabel,
    .toggleWithLabel, .radioWithLabel, .checkboxWithLabel, .dynamicTable]

/-- The name of a type. -/
def name : ComponentType → String
  | .button => "button"
  | .textField => "textField"
  | .card => "card"
  | .list => "list"
  | .icon => "icon"
  | .container => "container"
  | .row => "row"
  | .column => "column"
  | .stack => "stack"
  | .toggle => "switch"
  | .checkbox => "checkbox"
  | .radio => "radio"
  | .chatInput => "chatInput"
  | .chatMessage => "chatMessage"
  | .dropdown => "dropdown"
  | .inputWithLabel => "inputWithLabel"
  | .toggleWithLabel => "switchWithLabel"
  | .radioWithLabel => "radioWithLabel"
  | .checkboxWithLabel => "checkboxWithLabel"
  | .dynamicTable => "dynamicTable"

/-- The type of a name. -/
def ofName? (s : String) : Option ComponentType := all.find? fun t => t.name = s

/-- The type that a value names. -/
def ofJson? : Json → Option ComponentType
  | .text s => ofName? s
  | _ => none

/-- The type that stands in for an unknown one. -/
def fallback : ComponentType := .container

/-- Whether components of the type can have state of their own in a generated
program. -/
def canHaveState : ComponentType → Bool
  | .toggle | .checkbox | .dropdown => true
  | _ => false

/-- Every type is listed. -/
theorem mem_all (t : ComponentType) : t ∈ all := by
  cases t <;> decide

/-- A type is found under its name. -/
theorem ofName?_name (t : ComponentType) : ofName? t.name = some t := by
  cases t <;> decide +kernel

end ComponentType

end ScreenDesign
