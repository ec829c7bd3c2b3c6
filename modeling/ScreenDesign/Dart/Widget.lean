import ScreenDesign.Content.Reading
import ScreenDesign.Dart.Layout

/-!
# Widgets

Each kind of content has its widget.  A widget is a layout that can stand alone or
be attached to its parent.  A switch, check box or dropdown that is interactive
reads and sets a state variable, which is named after the index of its element.

Building a widget fails only if a whole number is too large for a Dart number.
-/

namespace ScreenDesign.Dart

open Layout

/-! ## Pieces -/

/-- An argument with a number. -/
def numberRow (before : String) (n : Number) (after : String) : Except Failure Layout :=
  (double n).map fun x => .line [.code before, .number x, .code after]

/-- An argument with a color. -/
def colorRow (before : String) (c : Color) (after : String) : Layout :=
  .line [.code before, .color c, .code after]

/-- An argument with a text literal. -/
def textRow (before : String) (s : String) (after : String) : Layout :=
  .line [.code before, .literal s, .code after]

/-- The padding of a widget. -/
def paddingRow (n : Number) : Except Failure Layout := numberRow "padding: EdgeInsets.all(" n "),"

/-- A gap between widgets in a row. -/
def gapAcross (width : String) : Layout := row ("const SizedBox(width: " ++ width ++ ")")

/-- A gap between widgets in a column. -/
def gapDown (height : String) : Layout := row ("const SizedBox(height: " ++ height ++ ")")

def inputBorder (c : Option Color) : Layout :=
  call "OutlineInputBorder"
    (row "borderRadius: BorderRadius.circular(8.0)," ::
      (c.map fun c => colorRow "borderSide: BorderSide(color: " c "),").toList)

/-- A truth value. -/
def truth (b : Bool) : Token := .code (if b then "true" else "false")

/-- What sets a state variable. -/
def setState (parameter variableName : String) (value : String) : Layout :=
  braces ("onChanged: (" ++ parameter ++ ") ")
    [.block [.code "setState(() \x7b"]
      [.line [.declared variableName, .code (" = " ++ value ++ ";")]]
      [.code "\x7d);"]]
    ","

/-- What happens on a change without state: nothing, or no change is possible. -/
def noState (disabled : Bool) (parameter : String) : Layout :=
  row (if disabled then "onChanged: null," else "onChanged: (" ++ parameter ++ ") \x7b\x7d,")

/-! ## Buttons -/

/-- What a button does. -/
def pressed (target : Option String) : Layout :=
  match target with
  | some target =>
      braces "() "
        [.line [.code "Navigator.of(context).pushNamed(", .literal ("/" ++ target), .code ");"]] ""
  | none => row "() \x7b\x7d"

def buttonLabel (s : String) : Layout :=
  call "Text"
    [textRow "" s ",", row "style: const TextStyle(fontWeight: FontWeight.w600, fontSize: 16),"]

def buttonShape (rounded : Bool) : Layout :=
  row (if rounded then "shape: const StadiumBorder(),"
    else "shape: RoundedRectangleBorder(borderRadius: BorderRadius.circular(8.0)),")

/-- A button with a surface. -/
def filledButton (b : Content.Button) (background foreground : Color) (padding : Layout) :
    Layout :=
  call "ElevatedButton"
    [attach "onPressed" (pressed b.target),
     argument "style: ElevatedButton.styleFrom"
      [colorRow "backgroundColor: " background ",", colorRow "foregroundColor: " foreground ",",
       buttonShape b.rounded, padding, row "elevation: 2,"],
     attach "child" (buttonLabel b.text)]

def button (b : Content.Button) : Except Failure Layout :=
  (paddingRow b.padding).map fun padding =>
    match b.look with
    | .outlined =>
        call "OutlinedButton"
          [attach "onPressed" (pressed b.target),
           argument "style: OutlinedButton.styleFrom"
            [colorRow "foregroundColor: " b.color ",",
             colorRow "side: BorderSide(color: " b.color ", width: 2.0),",
             buttonShape b.rounded, padding],
           attach "child" (buttonLabel b.text)]
    | .secondary => filledButton b Content.secondarySurface Content.secondaryText padding
    | .filled => filledButton b b.color b.color.contrast padding

/-! ## Controls -/

/-- A control.  With a state variable it shows and sets that. -/
def control (state : Option String) : Control → Layout
  | .toggle on disabled active inactive =>
      call "Switch"
        [.line [.code "value: ", (state.map Token.declared).getD (truth on), .code ","],
         colorRow "activeColor: " active ",",
         colorRow "inactiveTrackColor: " inactive ",",
         match state with
         | some v => setState "bool newValue" v "newValue"
         | none => noState disabled "bool newValue"]
  | .checkbox on disabled active =>
      call "Checkbox"
        [.line [.code "value: ", (state.map Token.declared).getD (truth on), .code ","],
         colorRow "activeColor: " active ",",
         match state with
         | some v => setState "bool? newValue" v "newValue ?? false"
         | none => noState disabled "bool? newValue"]
  | .radio on disabled active group =>
      call "Radio<String>"
        [textRow "value: " group ",",
         .line [.code "groupValue: ", if on then .literal group else .code "null", .code ","],
         colorRow "activeColor: " active ",",
         noState disabled "String? newValue"]

/-- A control with a label behind it, if there is anything to show. -/
def withLabel (control : Layout) (label : String) : Layout :=
  if label.isEmpty then control
  else
    call "Row"
      [row "mainAxisAlignment: MainAxisAlignment.center,",
       children [control, gapAcross "8.0", textRow "Text(" label ")"]]

/-- The stem of the state variable of a control.  Radio buttons have none. -/
def stateStem? : Control → Option String
  | .toggle _ _ _ _ => some "_switch"
  | .checkbox _ _ _ => some "_checkbox"
  | .radio _ _ _ _ => none

/-- The state variable of a switch or check box with an index. -/
def stateOf? (c : Content.Choosable) (index : Int) : Option String :=
  if c.interactive then (stateStem? c.control).map (· ++ decimalText index) else none

/-- A switch or check box with an index. -/
def choosable (c : Content.Choosable) (index : Int) : Layout :=
  withLabel (control (stateOf? c index) c.control) c.label

/-- A control with a colored label. -/
def labeled (l : Content.Labeled) : Layout :=
  let control := control none l.control
  let label := call "Text"
    [textRow "" l.label ",", colorRow "style: TextStyle(color: " l.labelColor "),"]
  let gap := gapAcross "12.0"
  call "Row" [children (if l.labelFirst then [label, gap, control] else [control, gap, label])]

/-! ## Inputs -/

/-- A label with the mark of what must be filled in. -/
def marked (label : String) (required : Bool) : String := if required then label ++ " *" else label

def textField (f : Content.TextField) : Layout :=
  call "TextField"
    [argument "decoration: InputDecoration"
      ((if f.label.isEmpty then [] else [textRow "labelText: " f.label ","]) ++
        [textRow "hintText: " f.hint ","] ++
        (f.icon.map fun name =>
          .line [.code "prefixIcon: const Icon(", .icon name, .code "),"]).toList ++
        (f.complaint.map fun s => textRow "errorText: " s ",").toList ++
        [attach "border" (inputBorder none)])]

/-- The state variable of a dropdown with an index. -/
def dropdownState? (d : Content.Dropdown) (index : Int) : Option String :=
  if d.interactive then some ("_dropdown" ++ decimalText index) else none

/-- The selected value of a dropdown.  An empty value counts as none. -/
def selection (d : Content.Dropdown) : Token :=
  match d.selected?.bind nonEmpty? with
  | some value => .literal value
  | none => .code "null"

/-- An item of a dropdown. -/
def menuItem (c : Choice) : Layout :=
  argument "DropdownMenuItem<String>"
    [textRow "value: " c.value ",", textRow "child: Text(" c.label "),"]

/-- A dropdown with an index. -/
def dropdown (d : Content.Dropdown) (index : Int) : Layout :=
  let state := dropdownState? d index
  call "DropdownButtonFormField<String>"
    [argument "decoration: InputDecoration"
      ((if d.label.isEmpty then [] else [textRow "labelText: " (marked d.label d.required) ","]) ++
        (if d.placeholder.isEmpty then [] else [textRow "hintText: " d.placeholder ","]) ++
        [row "filled: true,",
         colorRow "fillColor: " d.backgroundColor ",",
         attach "enabledBorder" (inputBorder (some d.borderColor))]),
     row "isExpanded: true,",
     .line [.code "value: ", (state.map Token.declared).getD (selection d), .code ","],
     brackets "items" (d.choices.map menuItem),
     if d.disabled then noState true "String? newValue"
      else
        match state with
        | some v => setState "String? newValue" v "newValue"
        | none => noState false "String? newValue"]

/-- The keyboard for a kind of input. -/
def keyboard? (kind : String) : Option String :=
  if kind = "email" then some "emailAddress"
  else if kind = "number" then some "number"
  else if kind = "tel" then some "phone"
  else if kind = "url" then some "url"
  else none

/-- The field of a labeled input. -/
def inputField (i : Content.Input) : Layout :=
  call "TextField"
    ((if i.value.isEmpty then []
      else [textRow "controller: TextEditingController(text: " i.value "),"]) ++
      (if i.disabled then [row "enabled: false,"] else []) ++
      (if i.kind = "password" then [row "obscureText: true,"] else []) ++
      ((keyboard? i.kind).map fun name =>
        row ("keyboardType: TextInputType." ++ name ++ ",")).toList ++
      [argument "decoration: InputDecoration"
        [textRow "hintText: " i.placeholder ",",
         attach "border" (inputBorder (some i.borderColor))]])

/-- A labeled input. -/
def input (i : Content.Input) : Layout :=
  call "Column"
    [row "crossAxisAlignment: CrossAxisAlignment.start,",
     children
      [call "Text"
        [textRow "" (marked i.label i.required) ",",
         argument "style: TextStyle"
          [row "fontWeight: FontWeight.w500,", colorRow "color: " i.labelColor ","]],
       gapDown "4.0",
       inputField i]]

/-! ## Chats -/

/-- A message composer. -/
def composer (c : Content.Composer) : Layout :=
  call "Row"
    [children
      [call "Expanded"
        [argument "child: TextField"
          [argument "decoration: InputDecoration"
            [textRow "hintText: " c.placeholder ",",
             attach "border" (inputBorder none),
             row "contentPadding:",
             row "    EdgeInsets.symmetric(horizontal: 12.0, vertical: 8.0),"]]],
       gapAcross "8.0",
       call "ElevatedButton"
        [row "onPressed: () \x7b\x7d,",
         argument "style: ElevatedButton.styleFrom"
          [colorRow "backgroundColor: " c.buttonColor ",",
           colorRow "foregroundColor: " c.buttonColor.contrast ","],
         textRow "child: Text(" c.buttonText "),"]]]

/-- The bubble of a message. -/
def bubble (m : Content.Message) : Layout :=
  call "Container"
    [row "padding: const EdgeInsets.all(12.0),",
     argument "decoration: BoxDecoration"
      [colorRow "color: " m.bubble ",", row "borderRadius: BorderRadius.circular(8.0),"],
     argument "child: Text"
      [textRow "" m.text ",", colorRow "style: TextStyle(color: " m.textColor "),"]]

/-- The side of a message. -/
def side (m : Content.Message) : String := if m.isOwn then "end" else "start"

/-- A message with the time below it. -/
def messageColumn (m : Content.Message) : Layout :=
  call "Column"
    [row "mainAxisSize: MainAxisSize.min,",
     row ("crossAxisAlignment: CrossAxisAlignment." ++ side m ++ ","),
     children (bubble m ::
      if m.timestamp then
        [textRow "Text(" Content.sampleTime
          ", style: const TextStyle(fontSize: 12, color: Colors.grey))"]
      else [])]

/-- A chat message. -/
def message (m : Content.Message) : Layout :=
  if m.avatar then
    let avatar := colorRow "CircleAvatar(radius: 16, backgroundColor: " m.avatarColor ")"
    let gap := gapAcross "8.0"
    let flexible := call "Flexible" [attach "child" (messageColumn m)]
    call "Row"
      [row ("mainAxisAlignment: MainAxisAlignment." ++ side m ++ ","),
       row "crossAxisAlignment: CrossAxisAlignment.start,",
       children (if m.isOwn then [flexible, gap, avatar] else [avatar, gap, flexible])]
  else
    call "Align"
      [row (if m.isOwn then "alignment: Alignment.centerRight,"
        else "alignment: Alignment.centerLeft,"),
       attach "child" (messageColumn m)]

/-! ## Surfaces -/

/-- The image of a card, with the gap below it. -/
def image (height : Number) : Except Failure (List Layout) :=
  (numberRow "height: " height ",").map fun height =>
    [call "Container"
      [height,
       row "width: double.infinity,",
       argument "decoration: BoxDecoration"
        [row "color: Colors.grey.shade300,", row "borderRadius: BorderRadius.circular(4.0),"],
       argument "child: Icon"
        [.line [.icon "image", .code ","], row "size: 48,", row "color: Colors.grey.shade600,"]],
     gapDown "12.0"]

def cardTexts (c : Content.Card) : List Layout :=
  [call "Text"
    [textRow "" c.title ",",
     row "style: const TextStyle(fontSize: 18, fontWeight: FontWeight.bold),"]] ++
    (if c.subtitle.isEmpty then []
      else
        [gapDown "4.0",
         call "Text"
          [textRow "" c.subtitle ",",
           row "style: TextStyle(fontSize: 14, color: Colors.grey.shade600),"]]) ++
    [gapDown "8.0",
     call "Text" [textRow "" c.body ",", row "style: const TextStyle(fontSize: 14),"]]

def card (c : Content.Card) : Except Failure Layout := do
  let image ← match c.imageHeight with
    | some height => image height
    | none => pure []
  let elevation ← numberRow "elevation: " c.elevation ","
  let radius ← numberRow "borderRadius: BorderRadius.circular(" c.borderRadius "),"
  let padding ← paddingRow c.padding
  pure <| call "Card"
    [elevation,
     colorRow "color: " c.color ",",
     row "clipBehavior: Clip.antiAlias,",
     argument "shape: RoundedRectangleBorder" [radius],
     argument "child: Padding"
      [padding,
       argument "child: Column"
        [row "crossAxisAlignment: CrossAxisAlignment.start,", children (image ++ cardTexts c)]]]

/-- The size of a list item along the list. -/
def tileExtent (l : Content.Listing) : Except Failure Layout :=
  if l.horizontal then .ok (row "width: 200.0,") else numberRow "height: " l.itemHeight ","

/-- An item of a list. -/
def tile (l : Content.Listing) (t : Tile) : Except Failure Layout :=
  (tileExtent l).map fun extent =>
    call "Container"
      [extent,
       row (if l.horizontal then "margin: const EdgeInsets.only(right: 8.0),"
        else "margin: const EdgeInsets.only(bottom: 8.0),"),
       argument "decoration: BoxDecoration"
        [row "color: Colors.white,", row "borderRadius: BorderRadius.circular(8.0),",
         row "border: Border.all(color: Colors.grey.shade300),"],
       attach "child" <| call "ListTile"
        ([.line [.code "leading: Icon(", .icon t.icon, .code ", color: Colors.blue),"],
          argument "title: Text"
            [textRow "" t.title ",", row "style: const TextStyle(fontWeight: FontWeight.w500),"],
          textRow "subtitle: Text(" t.subtitle "),"] ++
          if l.horizontal then []
          else
            [.line
              [.code "trailing: const Icon(", .icon "arrow_forward_ios", .code ", size: 16),"]])]

/-- A list. -/
def listing (l : Content.Listing) : Except Failure Layout :=
  (l.tiles.mapM (tile l)).map fun tiles =>
    call "ListView"
      ((if l.horizontal then [row "scrollDirection: Axis.horizontal,"] else []) ++
        (if l.scrollable then [] else [row "physics: const NeverScrollableScrollPhysics(),"]) ++
        [children tiles])

/-- An icon. -/
def glyph (g : Content.Glyph) : Except Failure Layout :=
  (numberRow "size: " g.size ",").map fun size =>
    call "Icon" [.line [.icon g.icon, .code ","], colorRow "color: " g.color ",", size]

def container (c : Content.Container) : Except Failure Layout := do
  let padding ← paddingRow c.padding
  let margin ← numberRow "margin: EdgeInsets.all(" c.margin "),"
  let radius ← numberRow "borderRadius: BorderRadius.circular(" c.borderRadius "),"
  pure <| call "Container"
    [padding, margin, argument "decoration: BoxDecoration" [colorRow "color: " c.color ",", radius]]

/-! ## Rows, columns and stacks -/

/-- A gray block that stands for a child. -/
def block (width height shade : String) : Layout :=
  call "Container"
    [row ("width: " ++ width ++ ","), row ("height: " ++ height ++ ","),
     row ("color: Colors.grey.shade" ++ shade ++ ",")]

/-- The constant for a distribution along the main axis. -/
def mainAxis (a : MainAxis) : String := "MainAxisAlignment." ++ a.name

/-- The constant for a placement across the main axis. -/
def crossAxis (a : CrossAxis) : String := "CrossAxisAlignment." ++ a.name

/-- A row or a column. -/
def flex (f : Content.Flex) : Except Failure Layout :=
  (paddingRow f.padding).map fun padding =>
    let child := match f.direction with
      | .row => block "30.0" "30.0" "300"
      | .column => block "100.0" "30.0" "300"
    let gap := match f.direction with
      | .row => gapAcross "8.0"
      | .column => gapDown "8.0"
    call "Padding"
      [padding,
       argument (match f.direction with | .row => "child: Row" | .column => "child: Column")
        [row ("mainAxisAlignment: " ++ mainAxis f.main ++ ","),
         row ("crossAxisAlignment: " ++ crossAxis f.cross ++ ","),
         children [child, gap, child, gap, child]]]

def stack (s : Content.Stack) : Except Failure Layout :=
  (paddingRow s.padding).map fun padding =>
    call "Padding"
      [padding,
       argument "child: Stack"
        [row ("alignment: Alignment." ++ s.anchor.name ++ ","),
         children [block "60.0" "60.0" "200", block "40.0" "40.0" "300"]]]

/-! ## Tables -/

/-- A column of a table. -/
def dataColumn (sortable : Bool) (c : Column) : Layout :=
  if sortable then
    argument "DataColumn"
      [textRow "label: Text(" c.title "),", row "onSort: (columnIndex, ascending) \x7b\x7d,"]
  else textRow "DataColumn(label: Text(" c.title ")),"

/-- A row of a table at a position. -/
def dataRow (g : Content.Grid) (position : Nat) (cells : Row) : Layout :=
  argument "DataRow"
    (((g.stripe? position).map fun c =>
        colorRow "color: WidgetStatePropertyAll(" c "),").toList ++
      [brackets "cells"
        (g.table.columns.map fun c => textRow "DataCell(Text(" (Content.cellText cells c) ")),")])

/-- The table itself. -/
def dataTable (g : Content.Grid) : Layout :=
  call "DataTable"
    ([if g.showHeader then colorRow "headingRowColor: WidgetStatePropertyAll(" g.headerColor "),"
      else row "headingRowHeight: 0,"] ++
      (if g.showBorder then [colorRow "border: TableBorder.all(color: " g.borderColor "),"]
        else []) ++
      [brackets "columns" (g.table.columns.map (dataColumn g.sortable)),
       brackets "rows" (g.table.rows.mapIdx (dataRow g))])

/-- The title of a table. -/
def gridTitle (s : String) : Layout :=
  call "Padding"
    [row "padding: const EdgeInsets.all(16.0),",
     argument "child: Text"
      [textRow "" s ",",
       argument "style: const TextStyle"
        [row "fontSize: 18,", row "fontWeight: FontWeight.bold,"]]]

/-- A table with its title. -/
def grid (g : Content.Grid) : Layout :=
  call "Column"
    [row "crossAxisAlignment: CrossAxisAlignment.start,",
     children ((if g.title.isEmpty then [] else [gridTitle g.title]) ++
      [call "Expanded"
        [argument "child: SingleChildScrollView"
          [row "scrollDirection: Axis.horizontal,", attach "child" (dataTable g)]]])]

/-! ## Everything -/

/-- The widget of a content with an index. -/
def widget (index : Int) : Content → Except Failure Layout
  | .button b => button b
  | .textField f => .ok (textField f)
  | .card c => card c
  | .list l => listing l
  | .icon g => glyph g
  | .container c => container c
  | .flex f => flex f
  | .stack s => stack s
  | .choosable c => .ok (choosable c index)
  | .control c => .ok (control none c)
  | .labeled l => .ok (labeled l)
  | .composer c => .ok (composer c)
  | .message m => .ok (message m)
  | .dropdown d => .ok (dropdown d index)
  | .input i => .ok (input i)
  | .grid g => .ok (grid g)

/-- The declaration of the state variable of a content with an index. -/
def stateField? (index : Int) : Content → Option Layout
  | .choosable c =>
      (stateOf? c index).map fun v =>
        .line [.code "bool ", .declared v, .code " = ", truth c.control.isOn, .code ";"]
  | .dropdown d =>
      (dropdownState? d index).map fun v =>
        .line [.code "String? ", .declared v, .code " = ", selection d, .code ";"]
  | _ => none

end ScreenDesign.Dart
