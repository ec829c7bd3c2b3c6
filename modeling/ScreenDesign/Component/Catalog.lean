import ScreenDesign.Component.Palette

/-!
# The catalog

The palette as data for other programs.

* `vocabulary` maps the name of each type to its description.
* `catalog` maps the name of each type to its sizes, default bag and editors.
* `elementSchema` is a JSON Schema of the records that elements are given as.
* `promptBundle` joins these with the canvas and an example, for a generator of
  designs.
-/

namespace ScreenDesign.Catalog

/-- The description of each type under its name. -/
def vocabulary : Json :=
  .object (ComponentType.all.map fun t => (t.name, .text t.description))

/-- What the panel knows about a type. -/
def entry (t : ComponentType) : Json :=
  .object
    [("description", .text t.description),
     ("defaultWidth", .nat t.defaultSize.width),
     ("defaultHeight", .nat t.defaultSize.height),
     ("minWidth", .nat t.floor.width),
     ("minHeight", .nat t.floor.height),
     ("properties", .object t.defaults),
     ("editors", .list (t.editors.map Editor.toJson))]

/-- The entry of each type under its name. -/
def catalog : Json := .object (ComponentType.all.map fun t => (t.name, entry t))

/-! ## The schema of an element -/

/-- The schema of a whole number with a default and bounds. -/
def wholeSchema (title description : String) (default low high : Nat) : Json :=
  .object
    [("default", .nat default),
     ("description", .text description),
     ("maximum", .nat high),
     ("minimum", .nat low),
     ("title", .text title),
     ("type", .text "integer")]

/-- The schema of the name of a type. -/
def typeSchema : Json :=
  .object
    [("description", .text
        ("Closed vocabulary of placeable components.\n\n" ++
          "Values are the wire names stored in persisted screens and produced by\n" ++
          "the generative collaborator.")),
     ("enum", .list (ComponentType.all.map fun t => .text t.name)),
     ("title", .text "ComponentType"),
     ("type", .text "string")]

/-- The schema of a property bag. -/
def bagSchema : Json :=
  .object
    [("type", .text "object"),
     ("additionalProperties", .bool true),
     ("description", .text
        ("Per-type property bag with camelCase keys; options, columns and " ++
          "data may be JSON strings or arrays")),
     ("title", .text "Properties")]

/-- The schema of the members of an element. -/
def memberSchemas : Json :=
  .object
    [("type", .object
        [("$ref", .text "#/$defs/ComponentType"),
         ("description", .text "Component type from the closed palette")]),
     ("x", wholeSchema "X" "Left edge in logical canvas units" 20 0 canvas.width),
     ("y", wholeSchema "Y" "Top edge in logical canvas units" 50 0 canvas.height),
     ("width", wholeSchema "Width" "Width in logical units; x + width must fit the canvas"
        100 20 canvas.width),
     ("height", wholeSchema "Height" "Height in logical units; y + height must fit the canvas"
        50 20 canvas.height),
     ("properties", bagSchema)]

def elementSchema : Json :=
  .object
    [("$defs", .object [("ComponentType", typeSchema)]),
     ("description", .text
        ("Pydantic model for element JSON Schema generation.\n\n" ++
          "Mirrors the IR DesignElement but carries field documentation for\n" ++
          "prompting the generative collaborator.")),
     ("properties", memberSchemas),
     ("required", .list [.text "type"]),
     ("title", .text "DesignElementSchema"),
     ("type", .text "object")]

/-! ## The bundle for a generator of designs -/

/-- An example of a labeled input that asks for an address. -/
def exampleInput : Json :=
  .object
    [("type", .text "inputWithLabel"), ("x", .nat 20), ("y", .nat 80), ("width", .nat 320),
     ("height", .nat 70),
     ("properties", .object [("label", .text "Email"), ("type", .text "email")])]

/-- An example of a button that leads to another screen. -/
def exampleButton : Json :=
  .object
    [("type", .text "button"), ("x", .nat 20), ("y", .nat 170), ("width", .nat 320),
     ("height", .nat 48),
     ("properties", .object [("text", .text "Sign In"), ("navigateTo", .text "home")])]

/-- Everything that a generator of designs has to know. -/
def promptBundle : Json :=
  .object
    [("schema", elementSchema),
     ("component_types", vocabulary),
     ("canvas", .object [("width", .nat canvas.width), ("height", .nat canvas.height)]),
     ("defaults", .object (ComponentType.all.map fun t => (t.name, .object t.defaults))),
     ("examples", .object [("login", .list [exampleInput, exampleButton])])]

end ScreenDesign.Catalog
