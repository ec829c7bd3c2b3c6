import ScreenDesign.Dart.Widget

/-!
# Sights

A preview and a generated program show the same things in different forms: icons,
buttons that open a screen, the choices of a dropdown, the heads and cells of a
table.  A `Sight` is such a thing without its form.

`Content.sights` are the sights of a content, in the order in which both forms have
them, and `Content.captions` are the texts that stand beside them.  A preview shows
a little more (`Content.drawn`).
-/

namespace ScreenDesign

inductive Sight where
  | icon (name : String)
  /-- A button that opens a route. -/
  | route (path : String)
  /-- A choice of a dropdown. -/
  | item (value label : String)
  /-- The head of a column. -/
  | heading (text : String)
  /-- The start of a row of a table. -/
  | row
  /-- A cell of the row before it. -/
  | cell (text : String)
  deriving DecidableEq

namespace Sight

/-! ## Kinds of sights -/

def icons (sights : List Sight) : List String :=
  sights.filterMap fun
    | .icon name => some name
    | _ => none

def routes (sights : List Sight) : List String :=
  sights.filterMap fun
    | .route path => some path
    | _ => none

/-- The choices with their values and labels. -/
def items (sights : List Sight) : List (String × String) :=
  sights.filterMap fun
    | .item value label => some (value, label)
    | _ => none

def headings (sights : List Sight) : List String :=
  sights.filterMap fun
    | .heading text => some text
    | _ => none

/-- The cells up to the next row. -/
def cells : List Sight → List String
  | .cell text :: sights => text :: cells sights
  | .row :: _ => []
  | _ :: sights => cells sights
  | [] => []

/-- The rows of a table with their cells. -/
def rows : List Sight → List (List String)
  | .row :: sights => cells sights :: rows sights
  | _ :: sights => rows sights
  | [] => []

end Sight

/-! ## The sights of a content -/

namespace Content

/-- The rows of a table below its head. -/
def bodySights (g : Grid) : List Sight :=
  g.table.rows.flatMap fun row => .row :: g.table.columns.map fun c => .cell (cellText row c)

/-- What the preview and the program both show of a content. -/
def sights : Content → List Sight
  | .button b => (b.target.map fun id => .route ("/" ++ id)).toList
  | .textField f => (f.icon.map .icon).toList
  | .card c => (c.imageHeight.map fun _ => .icon "image").toList
  | .list l =>
      l.tiles.flatMap fun t =>
        .icon t.icon :: if l.horizontal then [] else [.icon "arrow_forward_ios"]
  | .icon g => [.icon g.icon]
  | .dropdown d => d.choices.map fun c => .item c.value c.label
  | .grid g => g.table.columns.map (fun c => .heading c.title) ++ bodySights g
  | _ => []

/-- The choice that stands for the placeholder of a dropdown. -/
def placeholderSights (placeholder : String) : List Sight :=
  if placeholder.isEmpty then [] else [.item "" placeholder]

/-- What the preview shows of a content.  The placeholder of a dropdown is a choice
of its own, and the heads of a table make up a row or are left out. -/
def drawn : Content → List Sight
  | .dropdown d => placeholderSights d.placeholder ++ sights (.dropdown d)
  | .grid g => if g.showHeader then .row :: sights (.grid g) else bodySights g
  | c => c.sights

/-! ## The captions of a content -/

/-- A caption, if there is anything to show. -/
def captionOf (s : String) (required : Bool) : List String :=
  if s.isEmpty then [] else [Dart.marked s required]

/-- The texts of a content outside its choices and cells. -/
def captions : Content → List String
  | .button b => [b.text]
  | .textField f => captionOf f.label false ++ f.hint :: f.complaint.toList
  | .card c => c.title :: (captionOf c.subtitle false ++ [c.body])
  | .list l => l.tiles.flatMap fun t => [t.title, t.subtitle]
  | .choosable c => captionOf c.label false
  | .labeled l => [l.label]
  | .composer c => [c.placeholder, c.buttonText]
  | .message m => m.text :: if m.timestamp then [sampleTime] else []
  | .dropdown d => captionOf d.label d.required
  | .input i => [Dart.marked i.label i.required]
  | .grid g => captionOf g.title false
  | _ => []

end Content

end ScreenDesign
