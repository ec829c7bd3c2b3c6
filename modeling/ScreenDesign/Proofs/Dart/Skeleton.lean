import ScreenDesign.Proofs.Dart.SoundWidget
import ScreenDesign.Proofs.Masking

/-!
# The skeleton of a widget

The skeleton of a layout is its brackets in order.  No text takes part in it: the
widget of a content has the skeleton of the widget of the masked content
(`map_skeleton_widget`).

The simplifier takes the skeleton of a layout apart along the ways of building one,
and then nothing of a text is left but the question whether it is empty.
-/

namespace ScreenDesign.Dart

open Layout

/-- The brackets of source text. -/
def textBrackets (s : String) : List Char := s.toList.filter isBracket

/-! ## Tokens -/

@[simp] theorem rowBrackets_nil : rowBrackets [] = [] := rfl

@[simp] theorem rowBrackets_cons (t : Token) (ts : List Token) :
    rowBrackets (t :: ts) = t.brackets ++ rowBrackets ts := rfl

namespace Token

@[simp] theorem brackets_code (s : String) : (code s).brackets = textBrackets s := rfl

@[simp] theorem brackets_literal (s : String) : (literal s).brackets = [] := rfl

@[simp] theorem brackets_icon (s : String) : (icon s).brackets = [] := rfl

@[simp] theorem brackets_remark (s : String) : (remark s).brackets = [] := rfl

@[simp] theorem brackets_declared (s : String) : (declared s).brackets = [] := rfl

@[simp] theorem brackets_color (c : Color) : (color c).brackets = ['(', ')'] := rfl

@[simp] theorem brackets_number (x : Binary64) : (number x).brackets = [] := rfl

end Token

/-! ## Layouts -/

namespace Layout

@[simp] theorem skeleton_line (ts : List Token) : (line ts).skeleton = rowBrackets ts := by
  simp [skeleton, rows]

@[simp] theorem skeleton_block (opening closing : List Token) (body : List Layout) :
    (block opening body closing).skeleton =
      rowBrackets opening ++ (body.flatMap skeleton ++ rowBrackets closing) := by
  have hbody : (body.flatMap rows).flatMap rowBrackets = body.flatMap skeleton :=
    List.flatMap_assoc
  simp [skeleton, rows, rowsAll_eq, hbody]

@[simp] theorem skeleton_wrap (before after : List Token) (l : Layout) :
    (l.wrap before after).skeleton = rowBrackets before ++ (l.skeleton ++ rowBrackets after) := by
  cases l with
  | line ts => simp [wrap, rowBrackets_append]
  | block opening body closing => simp [wrap, rowBrackets_append]

@[simp] theorem skeleton_row (s : String) : (row s).skeleton = textBrackets s := by
  simp [row]

@[simp] theorem skeleton_call (name : String) (body : List Layout) :
    (call name body).skeleton =
      textBrackets (name ++ "(") ++ (body.flatMap skeleton ++ textBrackets ")") := by
  simp [call]

@[simp] theorem skeleton_argument (name : String) (body : List Layout) :
    (argument name body).skeleton =
      textBrackets (name ++ "(") ++ (body.flatMap skeleton ++ textBrackets "),") := by
  simp [argument]

@[simp] theorem skeleton_braces (head tail : String) (body : List Layout) :
    (braces head body tail).skeleton =
      textBrackets (head ++ "\x7b") ++
        (body.flatMap skeleton ++ textBrackets ("\x7d" ++ tail)) := by
  simp [braces]

@[simp] theorem skeleton_brackets (key : String) (body : List Layout) :
    (brackets key body).skeleton =
      textBrackets (key ++ ": [") ++ (body.flatMap skeleton ++ textBrackets "],") := by
  simp [brackets]

@[simp] theorem skeleton_attach (key : String) (l : Layout) :
    (attach key l).skeleton = textBrackets (key ++ ": ") ++ (l.skeleton ++ textBrackets ",") := by
  simp [attach]

@[simp] theorem skeleton_children (ls : List Layout) :
    (children ls).skeleton =
      textBrackets ("children" ++ ": [") ++
        (ls.flatMap (fun l => l.skeleton ++ textBrackets ",") ++ textBrackets "],") := by
  simp [children, List.flatMap_map]

end Layout

@[simp] theorem skeleton_textRow (before s after : String) :
    (textRow before s after).skeleton = textBrackets before ++ textBrackets after := by
  simp [textRow]

@[simp] theorem skeleton_colorRow (before : String) (c : Color) (after : String) :
    (colorRow before c after).skeleton =
      textBrackets before ++ ('(' :: ')' :: textBrackets after) := by
  simp [colorRow]

/-! ## Buttons -/

theorem skeleton_pressed (target : Option String) :
    (pressed (target.map Text.masked)).skeleton = (pressed target).skeleton := by
  cases target with
  | none => rfl
  | some s => simp [pressed]

theorem skeleton_filledButton (b : Content.Button) (background foreground : Color)
    (padding : Layout) :
    (filledButton b.masked background foreground padding).skeleton =
      (filledButton b background foreground padding).skeleton := by
  simp [filledButton, Content.Button.masked, buttonLabel, skeleton_pressed b.target]

/-! ## Controls -/

theorem skeleton_control (state : Option String) (c : Control) :
    (control state c.masked).skeleton = (control state c).skeleton := by
  cases c with
  | toggle => rfl
  | checkbox => rfl
  | radio on disabled active group => cases on <;> simp [control, Control.masked]

theorem stateOf?_masked (c : Content.Choosable) (index : Int) :
    stateOf? c.masked index = stateOf? c index := by
  have hstem : stateStem? c.control.masked = stateStem? c.control := by
    cases c.control <;> rfl
  simp [stateOf?, Content.Choosable.masked, hstem]

theorem skeleton_choosable (c : Content.Choosable) (index : Int) :
    (choosable c.masked index).skeleton = (choosable c index).skeleton := by
  rw [choosable, choosable, stateOf?_masked]
  by_cases hlabel : c.label = ""
  · simp [withLabel, Content.Choosable.masked, hlabel, skeleton_control]
  · simp [withLabel, Content.Choosable.masked, hlabel, skeleton_control]

theorem skeleton_labeled (l : Content.Labeled) :
    (labeled l.masked).skeleton = (labeled l).skeleton := by
  by_cases hfirst : l.labelFirst = true
  · simp [labeled, Content.Labeled.masked, hfirst, skeleton_control]
  · simp [labeled, Content.Labeled.masked, hfirst, skeleton_control]

/-! ## Inputs -/

theorem skeleton_textField (f : Content.TextField) :
    (textField f.masked).skeleton = (textField f).skeleton := by
  obtain ⟨label, hint, icon, complaint⟩ := f
  by_cases hlabel : label = ""
  · cases icon <;> cases complaint <;> simp [textField, Content.TextField.masked, hlabel]
  · cases icon <;> cases complaint <;> simp [textField, Content.TextField.masked, hlabel]

theorem brackets_selection (d : Content.Dropdown) : (selection d).brackets = [] := by
  rw [selection]
  split
  · rfl
  · rfl

theorem skeleton_menuItem (c : Choice) : (menuItem c.masked).skeleton = (menuItem c).skeleton := by
  simp [menuItem]

theorem skeleton_dropdown (d : Content.Dropdown) (index : Int) :
    (dropdown d.masked index).skeleton = (dropdown d index).skeleton := by
  have hstate : dropdownState? d.masked index = dropdownState? d index := rfl
  have hvalue :
      ((dropdownState? d index).map Token.declared |>.getD (selection d.masked)).brackets =
      ((dropdownState? d index).map Token.declared |>.getD (selection d)).brackets := by
    cases dropdownState? d index with
    | none => rw [Option.map_none, Option.getD_none, Option.getD_none, brackets_selection,
        brackets_selection]
    | some v => rfl
  have hitems : (d.masked.choices.map menuItem).flatMap skeleton =
      (d.choices.map menuItem).flatMap skeleton := by
    simp [Content.Dropdown.masked, List.flatMap_map, skeleton_menuItem]
  have hlabel : (if d.masked.label.isEmpty then []
        else [textRow "labelText: " (marked d.masked.label d.masked.required) ","]).flatMap
          skeleton =
      (if d.label.isEmpty then []
        else [textRow "labelText: " (marked d.label d.required) ","]).flatMap skeleton := by
    simp [Content.Dropdown.masked, apply_ite (List.flatMap skeleton)]
  have hhint : (if d.masked.placeholder.isEmpty then []
        else [textRow "hintText: " d.masked.placeholder ","]).flatMap skeleton =
      (if d.placeholder.isEmpty then []
        else [textRow "hintText: " d.placeholder ","]).flatMap skeleton := by
    simp [Content.Dropdown.masked, apply_ite (List.flatMap skeleton)]
  simp only [dropdown, hstate, skeleton_call, List.flatMap_cons, skeleton_argument, hvalue, hitems,
    skeleton_line, rowBrackets_cons, List.flatMap_append, hlabel, hhint, skeleton_brackets]
  rfl

theorem skeleton_keyboardRows (kind : String) :
    ((keyboard? kind).map fun name =>
      row ("keyboardType: TextInputType." ++ name ++ ",")).toList.flatMap skeleton = [] := by
  cases hname : keyboard? kind with
  | none => rfl
  | some name =>
      have hplain : PlainName ("keyboardType: TextInputType." ++ name ++ ",") :=
        .append (.append (plainName_ofList rfl) (plainName_keyboard? hname)) (plainName_ofList rfl)
      have hbrackets := filter_isBracket_of_plain hplain
      rw [Option.map_some, Option.toList_some, List.flatMap_singleton, skeleton_row, textBrackets,
        hbrackets]

theorem skeleton_inputField (i : Content.Input) :
    (inputField i.masked).skeleton = (inputField i).skeleton := by
  have hpassword (kind : String) :
      (if kind = "password" then [row "obscureText: true,"] else []).flatMap skeleton = [] := by
    split
    · rfl
    · rfl
  have hdisabled : i.masked.disabled = i.disabled := rfl
  have hvalue : (if i.masked.value.isEmpty then []
        else [textRow "controller: TextEditingController(text: " i.masked.value "),"]).flatMap
          skeleton =
      (if i.value.isEmpty then []
        else [textRow "controller: TextEditingController(text: " i.value "),"]).flatMap
          skeleton := by
    simp [Content.Input.masked, apply_ite (List.flatMap skeleton)]
  simp only [inputField, skeleton_call, List.flatMap_append, hvalue, hdisabled, hpassword,
    skeleton_keyboardRows, List.flatMap_cons, skeleton_argument, skeleton_textRow]
  rfl

theorem skeleton_input (i : Content.Input) :
    (input i.masked).skeleton = (input i).skeleton := by
  simp [input, skeleton_inputField, marked]

/-! ## Chats -/

theorem skeleton_composer (c : Content.Composer) :
    (composer c.masked).skeleton = (composer c).skeleton := by
  simp [composer]

theorem skeleton_messageColumn (m : Content.Message) :
    (messageColumn m.masked).skeleton = (messageColumn m).skeleton := by
  have hside : side m.masked = side m := rfl
  have htimestamp : m.masked.timestamp = m.timestamp := rfl
  by_cases h : m.timestamp = true
  · simp [messageColumn, bubble, hside, htimestamp, h]
  · simp [messageColumn, bubble, hside, htimestamp, h]

theorem skeleton_message (m : Content.Message) :
    (message m.masked).skeleton = (message m).skeleton := by
  have hside : side m.masked = side m := rfl
  have hown : m.masked.isOwn = m.isOwn := rfl
  have havatar : m.masked.avatar = m.avatar := rfl
  by_cases h : m.avatar = true
  · by_cases ho : m.isOwn = true
    · simp [message, hside, hown, havatar, h, ho, skeleton_messageColumn]
    · simp [message, hside, hown, havatar, h, ho, skeleton_messageColumn]
  · simp [message, hown, havatar, h, skeleton_messageColumn]

/-! ## Tables -/

theorem skeleton_dataColumn (sortable : Bool) (c d : Column) :
    (dataColumn sortable c).skeleton = (dataColumn sortable d).skeleton := by
  cases sortable <;> simp [dataColumn]

theorem skeleton_dataRow (g : Content.Grid) (position : Nat) (cells : Row) :
    (dataRow g.masked position []).skeleton = (dataRow g position cells).skeleton := by
  have hstripe : g.masked.stripe? position = g.stripe? position := rfl
  have hcells : (g.masked.table.columns.map fun c =>
        textRow "DataCell(Text(" (Content.cellText [] c) ")),").flatMap skeleton =
      (g.table.columns.map fun c =>
        textRow "DataCell(Text(" (Content.cellText cells c) ")),").flatMap skeleton := by
    simp [Content.Grid.masked, Table.masked, List.flatMap_map]
  simp only [dataRow, hstripe, skeleton_argument, List.flatMap_append, List.flatMap_singleton,
    skeleton_brackets, hcells]

theorem skeleton_dataTable (g : Content.Grid) :
    (dataTable g.masked).skeleton = (dataTable g).skeleton := by
  have hcolumns : (g.masked.table.columns.map (dataColumn g.sortable)).flatMap skeleton =
      (g.table.columns.map (dataColumn g.sortable)).flatMap skeleton := by
    rw [List.flatMap_def, List.flatMap_def]
    refine congrArg List.flatten ?_
    simp only [Content.Grid.masked, Table.masked, List.map_map]
    exact List.map_congr_left fun c _ => skeleton_dataColumn g.sortable _ c
  have hrows : (g.masked.table.rows.mapIdx (dataRow g.masked)).flatMap skeleton =
      (g.table.rows.mapIdx (dataRow g)).flatMap skeleton := by
    rw [List.flatMap_def, List.flatMap_def]
    refine congrArg List.flatten (List.ext_getElem ?_ fun i hi hi' => ?_)
    · simp [Content.Grid.masked, Table.masked]
    · rw [List.getElem_map, List.getElem_map, List.getElem_mapIdx, List.getElem_mapIdx]
      simp only [Content.Grid.masked, Table.masked, List.getElem_map]
      exact skeleton_dataRow g i _
  have hsortable : g.masked.sortable = g.sortable := rfl
  simp only [dataTable, skeleton_call, List.flatMap_append, List.flatMap_cons, skeleton_brackets,
    hsortable, hcolumns, hrows]
  rfl

theorem skeleton_grid (g : Content.Grid) : (grid g.masked).skeleton = (grid g).skeleton := by
  have htitle : (if g.masked.title.isEmpty then [] else [gridTitle g.masked.title]).flatMap
        (fun l => l.skeleton ++ textBrackets ",") =
      (if g.title.isEmpty then [] else [gridTitle g.title]).flatMap
        (fun l => l.skeleton ++ textBrackets ",") := by
    simp [Content.Grid.masked, gridTitle, apply_ite (List.flatMap _)]
  simp only [grid, skeleton_call, List.flatMap_append, List.flatMap_cons, skeleton_children, htitle,
    skeleton_argument, skeleton_attach, skeleton_dataTable]

/-! ## Widgets that may fail -/

section

variable {α : Type}

theorem map_skeleton_congr {x : Except Failure α} {f g : α → Layout}
    (h : ∀ a, (f a).skeleton = (g a).skeleton) :
    (x.map f).map skeleton = (x.map g).map skeleton := by
  cases x with
  | error e => rfl
  | ok a => exact congrArg Except.ok (h a)

theorem bind_skeleton_congr {x : Except Failure α} {f g : α → Except Failure Layout}
    (h : ∀ a, (f a).map skeleton = (g a).map skeleton) :
    (x >>= f).map skeleton = (x >>= g).map skeleton := by
  cases x with
  | error e => rfl
  | ok a => exact h a

/-- The skeletons of layouts that are built one by one. -/
theorem mapM_skeleton {f : α → Except Failure Layout} (as : List α) :
    (as.mapM f).map (List.map skeleton) = as.mapM fun a => (f a).map skeleton := by
  induction as with
  | nil => rfl
  | cons a as ih =>
      rw [List.mapM_cons, List.mapM_cons, ← ih]
      cases f a with
      | error e => rfl
      | ok l =>
          cases as.mapM f with
          | error e => rfl
          | ok ls => rfl

theorem map_skeleton_of_map {x y : Except Failure (List Layout)} {f g : List Layout → Layout}
    (hxy : x.map (List.map skeleton) = y.map (List.map skeleton))
    (hfg : ∀ ls ms, ls.map skeleton = ms.map skeleton → (f ls).skeleton = (g ms).skeleton) :
    (x.map f).map skeleton = (y.map g).map skeleton := by
  cases x with
  | error e =>
      cases y with
      | error e' => cases hxy; rfl
      | ok ms => cases hxy
  | ok ls =>
      cases y with
      | error e' => cases hxy
      | ok ms => exact congrArg Except.ok (hfg ls ms (Except.ok.inj hxy))

end

theorem map_skeleton_button (b : Content.Button) :
    (button b.masked).map skeleton = (button b).map skeleton := by
  refine map_skeleton_congr fun padding => ?_
  have hlook : b.masked.look = b.look := rfl
  rw [hlook]
  cases b.look with
  | filled => exact skeleton_filledButton b _ _ padding
  | secondary => exact skeleton_filledButton b _ _ padding
  | outlined =>
      simp [Content.Button.masked, buttonLabel, skeleton_pressed b.target]

theorem map_skeleton_glyph (g : Content.Glyph) :
    (glyph g.masked).map skeleton = (glyph g).map skeleton :=
  map_skeleton_congr fun size => by simp

theorem skeleton_cardTexts (c : Content.Card) :
    (cardTexts c.masked).flatMap (fun l => l.skeleton ++ textBrackets ",") =
      (cardTexts c).flatMap (fun l => l.skeleton ++ textBrackets ",") := by
  by_cases hsubtitle : c.subtitle = ""
  · simp [cardTexts, Content.Card.masked, hsubtitle]
  · simp [cardTexts, Content.Card.masked, hsubtitle]

theorem map_skeleton_card (c : Content.Card) :
    (card c.masked).map skeleton = (card c).map skeleton := by
  have hheight : c.masked.imageHeight = c.imageHeight := rfl
  rw [card, card, hheight]
  cases c.imageHeight
  all_goals
    refine bind_skeleton_congr fun image => bind_skeleton_congr fun elevation => ?_
    refine bind_skeleton_congr fun radius => bind_skeleton_congr fun padding => ?_
    refine congrArg Except.ok ?_
    simp [skeleton_cardTexts]

theorem map_skeleton_tile (l : Content.Listing) (t : Tile) :
    (tile l.masked t.masked).map skeleton = (tile l t).map skeleton := by
  refine map_skeleton_congr fun extent => ?_
  have hhorizontal : l.masked.horizontal = l.horizontal := rfl
  by_cases h : l.horizontal = true
  · simp [hhorizontal, h]
  · simp [hhorizontal, h]

theorem map_skeleton_listing (l : Content.Listing) :
    (listing l.masked).map skeleton = (listing l).map skeleton := by
  have htiles : (l.masked.tiles.mapM (tile l.masked)).map (List.map skeleton) =
      (l.tiles.mapM (tile l)).map (List.map skeleton) := by
    rw [mapM_skeleton, mapM_skeleton, Content.Listing.masked, List.mapM_map]
    exact congrArg (l.tiles.mapM ·) (funext fun t => map_skeleton_tile l t)
  refine map_skeleton_of_map htiles fun ls ms hsame => ?_
  have hchildren : (children ls).skeleton = (children ms).skeleton := by
    have (ls : List Layout) : ls.flatMap (fun l => l.skeleton ++ textBrackets ",") =
        (ls.map skeleton).flatMap (· ++ textBrackets ",") := by
      rw [List.flatMap_map]
    rw [skeleton_children, skeleton_children, this, this, hsame]
  simp only [skeleton_call, List.flatMap_append, List.flatMap_singleton, hchildren]
  rfl

/-- No text takes part in the skeleton of a widget. -/
theorem map_skeleton_widget (index : Int) (c : Content) :
    (widget index c.masked).map skeleton = (widget index c).map skeleton := by
  cases c with
  | button b => exact map_skeleton_button b
  | textField f => exact congrArg Except.ok (skeleton_textField f)
  | card c => exact map_skeleton_card c
  | list l => exact map_skeleton_listing l
  | icon g => exact map_skeleton_glyph g
  | container c => rfl
  | flex f => rfl
  | stack s => rfl
  | choosable c => exact congrArg Except.ok (skeleton_choosable c index)
  | control c => exact congrArg Except.ok (skeleton_control none c)
  | labeled l => exact congrArg Except.ok (skeleton_labeled l)
  | composer c => exact congrArg Except.ok (skeleton_composer c)
  | message m => exact congrArg Except.ok (skeleton_message m)
  | dropdown d => exact congrArg Except.ok (skeleton_dropdown d index)
  | input i => exact congrArg Except.ok (skeleton_input i)
  | grid g => exact congrArg Except.ok (skeleton_grid g)

end ScreenDesign.Dart
