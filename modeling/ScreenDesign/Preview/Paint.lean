import ScreenDesign.Content.Reading
import ScreenDesign.Preview.Node
import ScreenDesign.Preview.Theme

/-!
# Painting

Each kind of content has its picture: a preview node that fills the box of its
element.  Colors that no property sets come from the theme.

Nodes with the tag `icon` show glyphs that the generated program draws too, and
nodes with the tag `indicator` are marks of the editor alone.

Only the shadow of a card can fail to be painted: it is twice the elevation, and a
whole number may become too long to be written.
-/

namespace ScreenDesign

/-! ## Lengths -/

/-- A length in pixels. -/
def Number.px (n : Number) : String := n.settle.text ++ "px"

/-- A value as a length in pixels. -/
def Json.px : Json → String
  | .number n => n.px
  | j => j.shown ++ "px"

/-- A length in pixels, if the number is not too long to be written. -/
def Number.px? (n : Number) : Except Failure String :=
  match n with
  | .int i => if Nat.pow 10 Numeral.maxDigits ≤ i.natAbs then .error .tooLongToWrite else .ok n.px
  | .float _ => .ok n.px

namespace Paint

/-! ## Styles -/

/-- A style of texts. -/
def style (declarations : List (String × String)) : Bag :=
  declarations.map fun (key, s) => (key, .text s)

/-- The style of what fills its box. -/
def fill : List (String × String) := [("width", "100%"), ("height", "100%")]

/-- The style of what is laid out from top to bottom. -/
def downward : List (String × String) := [("display", "flex"), ("flexDirection", "column")]

/-- A solid border of some width. -/
def solid (width : String) (c : Color) : String := width ++ " solid " ++ c.hex

/-- A thin dashed border. -/
def dashed (c : Color) : String := "1px dashed " ++ c.hex

/-- The style of what cannot be used. -/
def dimmed (disabled : Bool) : Bag :=
  if disabled then [("opacity", .float (Binary64.ofDecimal false 6 (-1)))] else []

/-- The style of small text of less weight. -/
def caption (theme : Theme) : List (String × String) :=
  [("color", theme.muted.hex), ("fontSize", "12px")]

/-! ## Nodes -/

/-- A node without text. -/
def box (tag : String) (style : Bag) (attrs : Bag) (children : List Node) : Node :=
  .mk tag style none attrs children

def text (s : String) (declarations : List (String × String)) : Node :=
  .mk "text" (style declarations) (some s) [] []

/-- A glyph. -/
def icon (name : String) (declarations : List (String × String)) : Node :=
  .mk "icon" (style declarations) none [("name", .text name)] []

/-- The mark of what must be filled in. -/
def requiredMark (theme : Theme) : Node := text "*" [("color", theme.error.hex)]

def label (theme : Theme) (s : String) (color : Color) (required : Bool) : Node :=
  .mk "label" (style [("color", color.hex), ("fontSize", "14px"), ("fontWeight", "500")])
    (some s) [] (if required then [requiredMark theme] else [])

/-- A label in the color of plain text, if there is anything to show. -/
def plainLabel (theme : Theme) (s : String) (required : Bool) : List Node :=
  if s.isEmpty then [] else [label theme s theme.text required]

/-! ## Controls -/

/-- The background, text color and border of a button. -/
def buttonColors (b : Content.Button) : List (String × String) :=
  match b.look with
  | .outlined =>
      [("backgroundColor", "transparent"), ("color", b.color.hex), ("border", solid "2px" b.color)]
  | .secondary =>
      [("backgroundColor", Content.secondarySurface.hex), ("color", Content.secondaryText.hex)]
  | .filled => [("backgroundColor", b.color.hex), ("color", b.color.contrast.hex)]

/-- The mark of a button that leads somewhere. -/
def chevron : Node := box "indicator" [] [("name", .text "chevron_right")] []

def button (b : Content.Button) : Node :=
  box "button"
    (style (fill ++
      [("display", "flex"), ("alignItems", "center"), ("justifyContent", "center"),
       ("padding", b.padding.px), ("borderRadius", if b.rounded then "9999px" else "6px")] ++
      buttonColors b))
    (match b.target with
      | some target => [("navigateTo", .text target)]
      | none => [])
    (text b.text [] :: if b.target.isSome then [chevron] else [])

def textFieldBox (theme : Theme) (f : Content.TextField) : Node :=
  box "field"
    (style
      [("display", "flex"), ("alignItems", "center"), ("flex", "1"), ("borderRadius", "6px"),
       ("border", solid "1px" (if f.complaint.isSome then theme.error else theme.border))])
    []
    ((f.icon.map fun name => icon name [("color", theme.muted.hex)]).toList ++
      [text f.hint [("color", theme.muted.hex)]])

def textField (theme : Theme) (f : Content.TextField) : Node :=
  box "box" (style (fill ++ downward)) []
    (plainLabel theme f.label false ++ [textFieldBox theme f] ++
      (f.complaint.map fun s =>
        text s [("color", theme.error.hex), ("fontSize", "12px")]).toList)

/-- The thumb of a switch. -/
def thumb (theme : Theme) (on : Bool) : Node :=
  box "thumb"
    (style
      [("position", "absolute"), ("top", "2px"),
       ("left", if on then "calc(100% - 22px)" else "2px"), ("width", "20px"),
       ("height", "20px"), ("borderRadius", "9999px"), ("backgroundColor", theme.onAccent.hex)])
    [] []

/-- The mark of a check box that is on. -/
def checkmark (theme : Theme) : Node :=
  box "checkmark" (style [("color", theme.onAccent.hex)]) [("name", .text "check")] []

/-- The dot of a radio button that is on. -/
def dot (active : Color) : Node :=
  box "dot"
    (style
      [("width", "12px"), ("height", "12px"), ("borderRadius", "9999px"),
       ("backgroundColor", active.hex)])
    [] []

def control (theme : Theme) : Control → Node
  | .toggle on disabled active inactive =>
      box "switch"
        (style
          [("position", "relative"), ("width", "48px"), ("height", "24px"),
           ("borderRadius", "9999px"),
           ("backgroundColor", (if on then active else inactive).hex)] ++
          dimmed disabled)
        [("checked", .bool on)] [thumb theme on]
  | .checkbox on disabled active =>
      box "checkbox"
        (style
          [("width", "20px"), ("height", "20px"), ("borderRadius", "4px"),
           ("border", solid "1px" (if on then active else theme.unchecked)),
           ("backgroundColor", (if on then active else theme.surface).hex)] ++
          dimmed disabled)
        [("checked", .bool on)] (if on then [checkmark theme] else [])
  | .radio on disabled active group =>
      box "radio"
        (style
          [("width", "20px"), ("height", "20px"), ("borderRadius", "9999px"),
           ("border", solid "1px" (if on then active else theme.unchecked))] ++
          dimmed disabled)
        [("checked", .bool on), ("group", .text group)] (if on then [dot active] else [])

/-- A control in the middle of its box, with a label if there is anything to show. -/
def centered (theme : Theme) (c : Control) (label : String) (attrs : Bag) : Node :=
  box "box"
    (style (fill ++
      [("display", "flex"), ("alignItems", "center"), ("justifyContent", "center"),
       ("gap", "8px")]))
    attrs (control theme c :: plainLabel theme label false)

/-- A control with a label on one side. -/
def labeled (theme : Theme) (l : Content.Labeled) : Node :=
  let control := control theme l.control
  let label := label theme l.label l.labelColor false
  box "box"
    (style (fill ++ [("display", "flex"), ("alignItems", "center"), ("gap", "12px")])) []
    (if l.labelFirst then [label, control] else [control, label])

/-! ## Inputs -/

/-- A choice of a dropdown. -/
def option (label value : String) : Node :=
  .mk "option" [] (some label) [("value", .text value)] []

/-- The choices of a dropdown, after its placeholder. -/
def options (d : Content.Dropdown) : List Node :=
  (if d.placeholder.isEmpty then [] else [option d.placeholder ""]) ++
    d.choices.map fun c => option c.label c.value

def dropdown (theme : Theme) (d : Content.Dropdown) : Node :=
  box "box" (style (fill ++ downward)) [("interactive", .bool d.interactive)]
    (plainLabel theme d.label d.required ++
      [box "select"
        (style
          [("borderRadius", "6px"), ("border", solid "1px" d.borderColor),
           ("backgroundColor", d.backgroundColor.hex), ("color", theme.text.hex)] ++
          dimmed d.disabled)
        [("value", .text (d.selected?.getD "")), ("disabled", .bool d.disabled)]
        (options d)])

/-- A labeled input. -/
def input (theme : Theme) (i : Content.Input) : Node :=
  box "box" (style (fill ++ downward)) []
    [label theme i.label i.labelColor i.required,
     box "input"
      (style
        [("borderRadius", "6px"), ("border", solid "1px" i.borderColor),
         ("backgroundColor", theme.surface.hex), ("color", theme.text.hex)] ++
        dimmed i.disabled)
      [("type", .text i.kind), ("placeholder", .text i.placeholder), ("value", .text i.value),
       ("disabled", .bool i.disabled)]
      []]

/-- A message composer. -/
def composer (theme : Theme) (c : Content.Composer) : Node :=
  box "box"
    (style (fill ++
      [("display", "flex"), ("alignItems", "center"), ("gap", "8px"), ("padding", "8px"),
       ("border", solid "1px" theme.border), ("borderRadius", "8px")]))
    []
    [box "field"
      (style
        [("flex", "1"), ("borderRadius", "6px"), ("backgroundColor", theme.surface.hex),
         ("border", solid "1px" theme.border)])
      [] [text c.placeholder [("color", theme.muted.hex)]],
     box "button"
      (style
        [("borderRadius", "6px"), ("backgroundColor", c.buttonColor.hex),
         ("color", c.buttonColor.contrast.hex)])
      [] [text c.buttonText []]]

/-- The bubble of a message with the time below it. -/
def bubble (theme : Theme) (m : Content.Message) : Node :=
  box "box" (style downward) []
    (box "bubble"
      (style
        [("padding", "12px"), ("borderRadius", "8px"), ("backgroundColor", m.bubble.hex),
         ("color", m.textColor.hex)])
      [] [text m.text []] ::
    if m.timestamp then [text Content.sampleTime (caption theme)] else [])

/-- The avatar beside a message. -/
def avatar (m : Content.Message) : Node :=
  box "avatar"
    (style
      [("width", "32px"), ("height", "32px"), ("borderRadius", "9999px"),
       ("backgroundColor", m.avatarColor.hex)])
    [] []

/-- A chat message. -/
def message (theme : Theme) (m : Content.Message) : Node :=
  box "box"
    (style (fill ++
      [("display", "flex"), ("gap", "8px"),
       ("justifyContent", if m.isOwn then "flex-end" else "flex-start")]))
    [("sender", .text (if m.isOwn then "user" else "other"))]
    (if !m.avatar then [bubble theme m]
      else if m.isOwn then [bubble theme m, avatar m]
      else [avatar m, bubble theme m])

/-! ## Surfaces -/

/-- The image of a card. -/
def image (theme : Theme) (height : Number) : Node :=
  box "image"
    (style
      [("width", "100%"), ("height", height.px), ("borderRadius", "4px"),
       ("backgroundColor", theme.placeholder.hex)])
    [] [icon "image" [("color", theme.muted.hex)]]

/-- The shadow of a card. -/
def shadow (elevation : Number) : Except Failure String :=
  elevation.double.px?.map fun blur =>
    "0 " ++ elevation.px ++ " " ++ blur ++ " rgba(0, 0, 0, 0.1)"

/-- A card with its shadow. -/
def cardWith (theme : Theme) (c : Content.Card) (shadow : String) : Node :=
  box "card"
    (style (fill ++
      [("overflow", "hidden"), ("backgroundColor", c.color.hex),
       ("borderRadius", c.borderRadius.px), ("padding", c.padding.px), ("boxShadow", shadow)]))
    []
    ((c.imageHeight.map (image theme)).toList ++
      [text c.title
        [("color", theme.heading.hex), ("fontSize", "18px"), ("fontWeight", "700")]] ++
      (if c.subtitle.isEmpty then []
        else [text c.subtitle [("color", theme.muted.hex), ("fontSize", "14px")]]) ++
      [text c.body [("color", theme.text.hex), ("fontSize", "14px")]])

def card (theme : Theme) (c : Content.Card) : Except Failure Node :=
  (shadow c.elevation).map (cardWith theme c)

/-- An item of a list. -/
def tile (theme : Theme) (l : Content.Listing) (t : Tile) : Node :=
  box "item"
    (style
      [("display", "flex"), ("alignItems", "center"), ("flexShrink", "0"),
       ("width", if l.horizontal then "192px" else "100%"),
       ("height", if l.horizontal then "100%" else l.itemHeight.px),
       ("backgroundColor", theme.surface.hex), ("border", solid "1px" theme.border),
       ("borderRadius", "8px")])
    []
    ([icon t.icon [],
      box "box" (style [("flex", "1"), ("minWidth", "0")]) []
        [text t.title [("color", theme.heading.hex)], text t.subtitle (caption theme)]] ++
      if l.horizontal then [] else [icon "arrow_forward_ios" (caption theme)])

/-- A list. -/
def listing (theme : Theme) (l : Content.Listing) : Node :=
  box "list"
    (style (fill ++
      [("display", "flex"), ("flexDirection", if l.horizontal then "row" else "column"),
       ("overflow", if l.scrollable then "auto" else "hidden")]))
    [] (l.tiles.map (tile theme l))

/-- An icon. -/
def glyph (g : Content.Glyph) : Node :=
  box "box"
    (style (fill ++
      [("display", "flex"), ("alignItems", "center"), ("justifyContent", "center"),
       ("color", g.color.hex)]))
    [] [.mk "icon" [] none [("name", .text g.icon), ("size", .number g.size)] []]

def container (theme : Theme) (c : Content.Container) : Node :=
  box "box"
    (style (fill ++
      [("backgroundColor", c.color.hex), ("padding", c.padding.px), ("margin", c.margin.px),
       ("borderRadius", c.borderRadius.px)]))
    []
    [box "placeholder"
      (style (fill ++ [("border", dashed theme.border), ("borderRadius", "4px")])) [] []]

/-! ## Rows, columns and stacks -/

/-- The keyword for a distribution along the main axis. -/
def justify : MainAxis → String
  | .atStart => "flex-start"
  | .centered => "center"
  | .atEnd => "flex-end"
  | .spaceBetween => "space-between"
  | .spaceAround => "space-around"
  | .spaceEvenly => "space-evenly"

/-- The keyword for a placement across the main axis. -/
def alignItems : CrossAxis → String
  | .atStart => "flex-start"
  | .centered => "center"
  | .atEnd => "flex-end"
  | .stretched => "stretch"

/-- The keyword for a direction. -/
def directionName : Direction → String
  | .row => "row"
  | .column => "column"

/-- A block that stands for a child of a row or column. -/
def block (theme : Theme) (direction : Direction) : Node :=
  box "placeholder"
    (style
      [("width", if direction = .row then "32px" else "96px"), ("height", "32px"),
       ("borderRadius", "4px"), ("backgroundColor", theme.placeholder.hex)])
    [] []

/-- A row or a column. -/
def flex (theme : Theme) (f : Content.Flex) : Node :=
  box "box"
    (style (fill ++
      [("display", "flex"), ("flexDirection", directionName f.direction),
       ("justifyContent", justify f.main), ("alignItems", alignItems f.cross),
       ("padding", f.padding.px), ("border", dashed theme.outline), ("gap", "8px")]))
    [] (List.replicate 3 (block theme f.direction))

/-- A place on one axis. -/
inductive Edge where
  | near
  | middle
  | far
  deriving DecidableEq

/-- The place of an anchor from top to bottom. -/
def verticalEdge : Anchor → Edge
  | .topLeft | .topCenter | .topRight => .near
  | .centerLeft | .center | .centerRight => .middle
  | .bottomLeft | .bottomCenter | .bottomRight => .far

/-- The place of an anchor from left to right. -/
def horizontalEdge : Anchor → Edge
  | .topLeft | .centerLeft | .bottomLeft => .near
  | .topCenter | .center | .bottomCenter => .middle
  | .topRight | .centerRight | .bottomRight => .far

/-- The declaration that places a layer on one axis, some pixels from its anchor. -/
def edgeStyle (near far : String) (inset : Nat) : Edge → String × String
  | .near => (near, inset.repr ++ "px")
  | .far => (far, inset.repr ++ "px")
  | .middle => (near, if inset = 0 then "50%" else "calc(50% + " ++ inset.repr ++ "px)")

/-- The shifts that center a layer. -/
def shifts (anchor : Anchor) : List String :=
  (if verticalEdge anchor = .middle then ["translateY(-50%)"] else []) ++
    if horizontalEdge anchor = .middle then ["translateX(-50%)"] else []

/-- The style of a layer, some pixels from its anchor. -/
def layerStyle (anchor : Anchor) (inset : Nat) : List (String × String) :=
  [("position", "absolute"), ("borderRadius", "4px"),
   edgeStyle "top" "bottom" inset (verticalEdge anchor),
   edgeStyle "left" "right" inset (horizontalEdge anchor)] ++
    if (shifts anchor).isEmpty then [] else [("transform", " ".intercalate (shifts anchor))]

/-- A layer of a stack. -/
def layer (anchor : Anchor) (inset : Nat) (side : String) (color : Color) : Node :=
  box "layer"
    (style (layerStyle anchor inset ++
      [("width", side), ("height", side), ("backgroundColor", color.hex)]))
    [] []

def stack (theme : Theme) (s : Content.Stack) : Node :=
  box "box"
    (style (fill ++
      [("position", "relative"), ("padding", s.padding.px), ("border", dashed theme.outline)]))
    [("alignment", .text s.anchor.name)]
    [layer s.anchor 0 "64px" theme.placeholder, layer s.anchor 10 "48px" theme.border]

/-! ## Tables -/

def cellBorder (g : Content.Grid) : List (String × String) :=
  if g.showBorder then [("border", solid "1px" g.borderColor)] else []

/-- The head of a column. -/
def headCell (theme : Theme) (g : Content.Grid) (c : Column) : Node :=
  .mk "th" (style ([("width", c.width.px), ("color", theme.text.hex)] ++ cellBorder g))
    (some c.title) [] []

/-- A cell of a row. -/
def bodyCell (theme : Theme) (g : Content.Grid) (row : Row) (c : Column) : Node :=
  .mk "td" (style (("color", theme.text.hex) :: cellBorder g))
    (some (Content.cellText row c)) [] []

/-- The row at a position. -/
def bodyRow (theme : Theme) (g : Content.Grid) (position : Nat) (row : Row) : Node :=
  box "tr" (style [("backgroundColor", ((g.stripe? position).getD theme.surface).hex)]) []
    (g.table.columns.map (bodyCell theme g row))

/-- The rows of a table, after the row of heads. -/
def tableRows (theme : Theme) (g : Content.Grid) : List Node :=
  (if g.showHeader then
    [box "tr" (style [("backgroundColor", g.headerColor.hex)]) []
      (g.table.columns.map (headCell theme g))]
  else []) ++ g.table.rows.mapIdx (bodyRow theme g)

/-- A table with its title. -/
def grid (theme : Theme) (g : Content.Grid) : Node :=
  box "box" (style (fill ++ downward ++ [("overflow", "hidden")])) []
    ((if g.title.isEmpty then []
      else
        [text g.title
          [("color", theme.text.hex), ("fontWeight", "500"),
           ("borderBottom", solid "1px" theme.border)]]) ++
      [box "table"
        (style
          [("width", "100%"), ("borderCollapse", if g.showBorder then "collapse" else "separate")])
        [("sortable", .bool g.sortable)] (tableRows theme g)])

/-! ## Everything -/

/-- The picture of a content. -/
def content (theme : Theme) : Content → Except Failure Node
  | .button b => .ok (button b)
  | .textField f => .ok (textField theme f)
  | .card c => card theme c
  | .list l => .ok (listing theme l)
  | .icon g => .ok (glyph g)
  | .container c => .ok (container theme c)
  | .flex f => .ok (flex theme f)
  | .stack s => .ok (stack theme s)
  | .choosable c =>
      .ok (centered theme c.control c.label [("interactive", .bool c.interactive)])
  | .control c => .ok (centered theme c "" [])
  | .labeled l => .ok (labeled theme l)
  | .composer c => .ok (composer theme c)
  | .message m => .ok (message theme m)
  | .dropdown d => .ok (dropdown theme d)
  | .input i => .ok (input theme i)
  | .grid g => .ok (grid theme g)

end Paint

end ScreenDesign
