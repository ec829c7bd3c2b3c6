import ScreenDesign.Proofs.Dart.Tokens
import ScreenDesign.Proofs.Number.Range

/-!
# The numbers of a widget

The only numbers in a widget are the lengths of its content.  They stand in it in order,
and a widget fails only if one of the lengths is too large (`numbers_widget`).
-/

namespace ScreenDesign

/-- The lengths that the widget of a content gives, in order. -/
def Content.lengths : Content → List Number
  | .button b => [b.padding]
  | .card c => [c.elevation, c.borderRadius, c.padding] ++ c.imageHeight.toList
  | .list l => l.tiles.flatMap fun _ => if l.horizontal then [] else [l.itemHeight]
  | .icon g => [g.size]
  | .container c => [c.padding, c.margin, c.borderRadius]
  | .flex f => [f.padding]
  | .stack s => [s.padding]
  | _ => []

namespace Dart

/-- The number that a token is. -/
def Token.number? : Token → Option Binary64
  | .number x => some x
  | _ => none

namespace Token

@[simp] theorem number?_code (s : String) : (code s).number? = none := rfl

@[simp] theorem number?_declared (s : String) : (declared s).number? = none := rfl

@[simp] theorem number?_literal (s : String) : (literal s).number? = none := rfl

@[simp] theorem number?_number (x : Binary64) : (number x).number? = some x := rfl

@[simp] theorem number?_color (c : Color) : (color c).number? = none := rfl

@[simp] theorem number?_icon (s : String) : (icon s).number? = none := rfl

@[simp] theorem number?_remark (s : String) : (remark s).number? = none := rfl

end Token

namespace Layout

/-- The numbers of a layout, in order. -/
def numbers (l : Layout) : List Binary64 := l.tokens.filterMap Token.number?

/-! ## Layouts -/

section

variable (name key head tail before after : String) (body : List Layout)

theorem filterMap_tokens :
    (body.flatMap tokens).filterMap Token.number? = body.flatMap numbers :=
  List.filterMap_flatMap

@[simp] theorem numbers_line (ts : List Token) :
    (Layout.line ts).numbers = ts.filterMap Token.number? := by rw [numbers, tokens_line]

@[simp] theorem numbers_block (opening closing : List Token) :
    (Layout.block opening body closing).numbers =
      opening.filterMap Token.number? ++
        (body.flatMap numbers ++ closing.filterMap Token.number?) := by
  rw [numbers, tokens_block, List.filterMap_append, List.filterMap_append, filterMap_tokens]

@[simp] theorem numbers_row : (row name).numbers = [] := numbers_line _

@[simp] theorem numbers_call : (call name body).numbers = body.flatMap numbers := by
  simp [call, List.filterMap_cons]

@[simp] theorem numbers_argument : (argument name body).numbers = body.flatMap numbers := by
  simp [argument, List.filterMap_cons]

@[simp] theorem numbers_braces : (braces head body tail).numbers = body.flatMap numbers := by
  simp [braces, List.filterMap_cons]

@[simp] theorem numbers_brackets : (brackets key body).numbers = body.flatMap numbers := by
  simp [brackets, List.filterMap_cons]

@[simp] theorem numbers_wrap (opening closing : List Token) (l : Layout) :
    (l.wrap opening closing).numbers =
      opening.filterMap Token.number? ++ (l.numbers ++ closing.filterMap Token.number?) := by
  simp [numbers]

@[simp] theorem numbers_attach (l : Layout) : (attach key l).numbers = l.numbers := by
  simp [attach, List.filterMap_cons]

@[simp] theorem numbers_children : (children body).numbers = body.flatMap numbers := by
  simp [children, List.flatMap_map, List.filterMap_cons]

@[simp] theorem numbers_textRow (s : String) : (textRow before s after).numbers = [] :=
  numbers_line _

@[simp] theorem numbers_colorRow (c : Color) : (colorRow before c after).numbers = [] :=
  numbers_line _

end

end Layout

open Layout

/-! ## Widgets without numbers -/

@[simp] theorem numbers_setState (parameter v value : String) :
    (setState parameter v value).numbers = [] := by
  rw [setState, numbers_braces, List.flatMap_singleton, numbers, tokens_block]
  rfl

@[simp] theorem numbers_noState (disabled : Bool) (parameter : String) :
    (noState disabled parameter).numbers = [] := numbers_row _

theorem number?_truth (b : Bool) : (truth b).number? = none := rfl

theorem numbers_control (state : Option String) (c : Control) : (control state c).numbers = [] := by
  cases c with
  | toggle on disabled active inactive =>
      cases state <;> simp [control, List.filterMap_cons, number?_truth]
  | checkbox on disabled active =>
      cases state <;> simp [control, List.filterMap_cons, number?_truth]
  | radio on disabled active group => cases on <;> simp [control, List.filterMap_cons]

theorem numbers_choosable (c : Content.Choosable) (index : Int) :
    (choosable c index).numbers = [] := by
  have hcontrol := numbers_control (stateOf? c index) c.control
  rw [choosable, withLabel]
  split
  · exact hcontrol
  · simp [hcontrol, gapAcross]

theorem numbers_labeled (l : Content.Labeled) : (labeled l).numbers = [] := by
  cases hfirst : l.labelFirst <;> simp [labeled, hfirst, numbers_control, gapAcross]

theorem numbers_inputBorder (c : Option Color) : (inputBorder c).numbers = [] := by
  cases c <;> simp [inputBorder]

theorem numbers_textField (f : Content.TextField) : (textField f).numbers = [] := by
  cases hlabel : f.label.isEmpty <;> cases hicon : f.icon <;> cases hcomplaint : f.complaint <;>
    simp [textField, hlabel, hicon, hcomplaint, List.filterMap_cons, numbers_inputBorder]

theorem number?_selection (d : Content.Dropdown) : (selection d).number? = none := by
  rw [selection]
  split <;> rfl

theorem numbers_menuItem (c : Choice) : (menuItem c).numbers = [] := by simp [menuItem]

theorem numbers_dropdown (d : Content.Dropdown) (index : Int) : (dropdown d index).numbers = [] := by
  cases hlabel : d.label.isEmpty <;> cases hplaceholder : d.placeholder.isEmpty <;>
    cases hdisabled : d.disabled <;> cases hstate : dropdownState? d index <;>
    simp [dropdown, hlabel, hplaceholder, hdisabled, hstate, List.filterMap_cons,
      numbers_inputBorder, number?_selection, List.flatMap_map, numbers_menuItem]

theorem numbers_input (i : Content.Input) : (input i).numbers = [] := by
  have hfield : (inputField i).numbers = [] := by
    cases hvalue : i.value.isEmpty <;> cases hdisabled : i.disabled <;>
      cases hkeyboard : keyboard? i.kind <;> by_cases hkind : i.kind = "password" <;>
      simp [inputField, hvalue, hdisabled, hkeyboard, hkind, numbers_inputBorder]
  simp [input, hfield, gapDown]

theorem numbers_composer (c : Content.Composer) : (composer c).numbers = [] := by
  simp [composer, numbers_inputBorder, gapAcross]

theorem numbers_message (m : Content.Message) : (message m).numbers = [] := by
  have hcolumn : (messageColumn m).numbers = [] := by
    cases htime : m.timestamp <;> simp [messageColumn, bubble, htime]
  cases havatar : m.avatar <;> cases hown : m.isOwn <;>
    simp [message, havatar, hown, hcolumn, gapAcross]

theorem numbers_grid (g : Content.Grid) : (grid g).numbers = [] := by
  have hcolumns : (g.table.columns.map (dataColumn g.sortable)).flatMap numbers = [] := by
    refine List.flatMap_eq_nil_iff.mpr fun l hl => ?_
    obtain ⟨c, -, rfl⟩ := List.mem_map.mp hl
    cases hsortable : g.sortable <;> simp [dataColumn]
  have hrows : (g.table.rows.mapIdx (dataRow g)).flatMap numbers = [] := by
    refine List.flatMap_eq_nil_iff.mpr fun l hl => ?_
    obtain ⟨i, hi, rfl⟩ := List.mem_mapIdx.mp hl
    cases hstripe : g.stripe? i <;> simp [dataRow, hstripe, List.flatMap_map]
  have htable : (dataTable g).numbers = [] := by
    cases hheader : g.showHeader <;> cases hborder : g.showBorder <;>
      simp only [dataTable, hheader, hborder, numbers_call, List.flatMap_append, List.flatMap_cons,
        List.flatMap_nil, numbers_brackets, numbers_row, numbers_colorRow, hcolumns, hrows,
        List.append_nil, Bool.false_eq_true, if_true, if_false]
  cases htitle : g.title.isEmpty <;> simp [grid, htitle, htable, gridTitle]

/-! ## Widgets with numbers -/

theorem numbers_numberRow (before : String) (n : Number) (after : String) :
    (numberRow before n after).map numbers = [n].mapM double := by
  rw [numberRow, List.mapM_cons, List.mapM_nil]
  cases double n with
  | error e => rfl
  | ok x => rfl

theorem numbers_button (b : Content.Button) : (button b).map numbers = [b.padding].mapM double := by
  rw [← numbers_numberRow "padding: EdgeInsets.all(" b.padding "),", button, paddingRow]
  cases numberRow "padding: EdgeInsets.all(" b.padding ")," with
  | error e => rfl
  | ok padding =>
      cases hlook : b.look <;> cases htarget : b.target <;>
        simp [Except.map, htarget, filledButton, pressed, buttonLabel, buttonShape]

theorem numbers_glyph (g : Content.Glyph) : (glyph g).map numbers = [g.size].mapM double := by
  rw [← numbers_numberRow "size: " g.size ",", glyph]
  cases numberRow "size: " g.size "," with
  | error e => rfl
  | ok size => simp [Except.map, List.filterMap_cons]

theorem numbers_placeholder (width height shade : String) : (block width height shade).numbers = [] := by
  simp [block]

theorem numbers_flex (f : Content.Flex) : (flex f).map numbers = [f.padding].mapM double := by
  rw [← numbers_numberRow "padding: EdgeInsets.all(" f.padding "),", flex, paddingRow]
  cases numberRow "padding: EdgeInsets.all(" f.padding ")," with
  | error e => rfl
  | ok padding =>
      cases f.direction <;> simp [Except.map, numbers_placeholder, gapAcross, gapDown]

theorem numbers_stack (s : Content.Stack) : (stack s).map numbers = [s.padding].mapM double := by
  rw [← numbers_numberRow "padding: EdgeInsets.all(" s.padding "),", stack, paddingRow]
  cases numberRow "padding: EdgeInsets.all(" s.padding ")," with
  | error e => rfl
  | ok padding => simp [Except.map, numbers_placeholder]

theorem numbers_container (c : Content.Container) :
    (container c).map numbers = [c.padding, c.margin, c.borderRadius].mapM double := by
  rw [container, paddingRow, numberRow, numberRow, numberRow]
  simp only [List.mapM_cons, List.mapM_nil]
  cases double c.padding with
  | error e => rfl
  | ok padding =>
      cases double c.margin with
      | error e => rfl
      | ok margin =>
          cases double c.borderRadius with
          | error e => rfl
          | ok radius =>
              simp [bind, Except.bind, pure, Except.pure, Except.map, List.filterMap_cons]

/-- A number is too large or has a Dart number. -/
theorem double_cases (n : Number) : double n = .error .tooLarge ∨ ∃ x, double n = .ok x := by
  cases h : double n with
  | error f => exact .inl (congrArg Except.error (double_eq_error h))
  | ok x => exact .inr ⟨x, rfl⟩

/-- One number that is too large is enough to fail. -/
theorem mapM_double_of_error {ns : List Number} {n : Number} (h : double n = .error .tooLarge)
    (hn : n ∈ ns) : ns.mapM double = .error .tooLarge := by
  induction ns with
  | nil => cases hn
  | cons m ns ih =>
      rw [List.mapM_cons]
      rcases double_cases m with hm | ⟨x, hm⟩
      · rw [hm]
        rfl
      · rcases List.mem_cons.mp hn with rfl | hn
        · rw [hm] at h
          cases h
        · rw [hm, ih hn]
          rfl

/-- The image of a card comes after the other numbers, though it is looked at first.  A number
that is too large fails in the same way wherever it stands. -/
theorem numbers_card (c : Content.Card) :
    (card c).map numbers =
      ([c.elevation, c.borderRadius, c.padding] ++ c.imageHeight.toList).mapM double := by
  have htexts : (cardTexts c).flatMap numbers = [] := by
    cases hsubtitle : c.subtitle.isEmpty <;> simp [cardTexts, hsubtitle, gapDown]
  rw [card, paddingRow, numberRow, numberRow, numberRow]
  cases himage : c.imageHeight with
  | none =>
      rcases double_cases c.elevation with helevation | ⟨elevation, helevation⟩
      · rw [mapM_double_of_error helevation (by simp), helevation]
        rfl
      rcases double_cases c.borderRadius with hradius | ⟨radius, hradius⟩
      · rw [mapM_double_of_error hradius (by simp), helevation, hradius]
        rfl
      rcases double_cases c.padding with hpadding | ⟨padding, hpadding⟩
      · rw [mapM_double_of_error hpadding (by simp), helevation, hradius, hpadding]
        rfl
      simp [helevation, hradius, hpadding, bind, Except.bind, pure, Except.pure, Except.map,
        List.filterMap_cons, htexts]
  | some height =>
      simp only [image, numberRow]
      rcases double_cases height with hheight | ⟨y, hheight⟩
      · rw [mapM_double_of_error hheight (by simp), hheight]
        rfl
      rcases double_cases c.elevation with helevation | ⟨elevation, helevation⟩
      · rw [mapM_double_of_error helevation (by simp), hheight, helevation]
        rfl
      rcases double_cases c.borderRadius with hradius | ⟨radius, hradius⟩
      · rw [mapM_double_of_error hradius (by simp), hheight, helevation, hradius]
        rfl
      rcases double_cases c.padding with hpadding | ⟨padding, hpadding⟩
      · rw [mapM_double_of_error hpadding (by simp), hheight, helevation, hradius, hpadding]
        rfl
      simp [hheight, helevation, hradius, hpadding, bind, Except.bind, pure, Except.pure,
        Except.map, List.filterMap_cons, htexts, gapDown]

/-- The numbers of a list item: its height, unless it is one of a row. -/
theorem numbers_tile (l : Content.Listing) (t : Tile) :
    (tile l t).map numbers = (if l.horizontal then [] else [l.itemHeight]).mapM double := by
  rw [tile, tileExtent]
  cases hhorizontal : l.horizontal with
  | true => simp [Except.map, List.filterMap_cons, pure, Except.pure]
  | false =>
      have hrow := numbers_numberRow "height: " l.itemHeight ","
      simp only [Bool.false_eq_true, if_false]
      rw [← hrow]
      cases numberRow "height: " l.itemHeight "," with
      | error e => rfl
      | ok extent => simp [Except.map, List.filterMap_cons]

theorem numbers_listing (l : Content.Listing) :
    (listing l).map numbers = (Content.lengths (.list l)).mapM double := by
  have htiles (ts : List Tile) : (ts.mapM (tile l)).map (·.flatMap numbers) =
      (ts.flatMap fun _ => if l.horizontal then [] else [l.itemHeight]).mapM double := by
    induction ts with
    | nil => rfl
    | cons t ts ih =>
        rw [List.mapM_cons, List.flatMap_cons, List.mapM_append, ← numbers_tile l t, ← ih]
        cases tile l t with
        | error e => rfl
        | ok layout =>
            cases ts.mapM (tile l) with
            | error e => rfl
            | ok layouts => rfl
  rw [Content.lengths, ← htiles, listing]
  cases l.tiles.mapM (tile l) with
  | error e => rfl
  | ok tiles =>
      cases l.horizontal <;> cases l.scrollable <;> simp [Except.map]

/-! ## Everything -/

/-- The numbers of a widget are the Dart numbers of the lengths of its content, and it fails
if one of them is too large. -/
theorem numbers_widget (index : Int) (c : Content) :
    (widget index c).map numbers = c.lengths.mapM double := by
  cases c with
  | button b => exact numbers_button b
  | card c => exact numbers_card c
  | list l => exact numbers_listing l
  | icon g => exact numbers_glyph g
  | container c => exact numbers_container c
  | flex f => exact numbers_flex f
  | stack s => exact numbers_stack s
  | textField f => exact congrArg Except.ok (numbers_textField f)
  | choosable c => exact congrArg Except.ok (numbers_choosable c index)
  | control c => exact congrArg Except.ok (numbers_control none c)
  | labeled l => exact congrArg Except.ok (numbers_labeled l)
  | composer c => exact congrArg Except.ok (numbers_composer c)
  | message m => exact congrArg Except.ok (numbers_message m)
  | dropdown d => exact congrArg Except.ok (numbers_dropdown d index)
  | input i => exact congrArg Except.ok (numbers_input i)
  | grid g => exact congrArg Except.ok (numbers_grid g)

/-- There is a widget exactly if no whole number among the lengths is too large. -/
theorem exists_widget_iff {index : Int} {c : Content} :
    (∃ l, widget index c = .ok l) ↔
      ∀ i : Int, .int i ∈ c.lengths → i.natAbs < Binary64.overflow := by
  have hwidget : (∃ l, widget index c = .ok l) ↔ ∃ xs, c.lengths.mapM double = .ok xs := by
    rw [← numbers_widget index c]
    cases widget index c with
    | error f => exact ⟨nofun, nofun⟩
    | ok l => exact ⟨fun _ => ⟨_, rfl⟩, fun _ => ⟨l, rfl⟩⟩
  rw [hwidget, exists_mapM_iff]
  simp only [exists_double_iff]
  exact ⟨fun h i hi => h _ hi i rfl, fun h n hn i hi => h i (hi ▸ hn)⟩

/-- All that can fail in a widget is a number that is too large. -/
theorem widget_eq_error {index : Int} {c : Content} {f : Failure}
    (h : widget index c = .error f) : f = .tooLarge := by
  have hnumbers := numbers_widget index c
  rw [h] at hnumbers
  obtain ⟨n, -, hn⟩ := exists_of_mapM_eq_error hnumbers.symm
  exact double_eq_error hn

/-- The numbers of a widget are finite if the lengths of its content are. -/
theorem isFinite_of_mem_numbers {index : Int} {c : Content} {l : Layout}
    (h : widget index c = .ok l) (hlengths : ∀ n ∈ c.lengths, n.isFinite = true) {x : Binary64}
    (hx : x ∈ l.numbers) : x.isFinite = true := by
  have hnumbers := numbers_widget index c
  rw [h] at hnumbers
  obtain ⟨n, hn, hdouble⟩ := exists_of_mem_mapM hnumbers.symm hx
  exact isFinite_of_double hdouble (hlengths n hn)

end Dart

end ScreenDesign
