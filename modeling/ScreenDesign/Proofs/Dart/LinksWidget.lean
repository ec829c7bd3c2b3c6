import ScreenDesign.Proofs.Dart.Links

/-!
# Links of widgets

All source text of a widget is calm but the call of a button, so its only link is the one to the
target of the button (`leads_widget`).  Each lemma follows the definition of its widget.
-/

namespace ScreenDesign.Dart

open Layout

/-! ## Pieces -/

theorem calm_numberRow {cs ds : List Char} {n : Number} (h : (isCalm cs && isCalm ds) = true) :
    Ensures Calm (numberRow (String.ofList cs) n (String.ofList ds)) := by
  rw [numberRow]
  cases double n with
  | error e => trivial
  | ok x => exact .around h (.number x)

theorem calm_paddingRow (n : Number) : Ensures Calm (paddingRow n) := calm_numberRow rfl

theorem calm_inputBorder (c : Option Color) : Calm (inputBorder c) :=
  .call rfl (.later (.row rfl) (.all (forall_option (fun _ => .colorRow rfl) c)))

theorem calm_gapAcross (width : String) : Calm (gapAcross width) := @Calm.rowEnding [')'] _ rfl

theorem calm_gapDown (height : String) : Calm (gapDown height) := @Calm.rowEnding [')'] _ rfl

theorem calm_truth (b : Bool) : Leads [] [truth b] := by
  cases b with
  | false => exact .code rfl
  | true => exact .code rfl

/-- A name where there is one, and another token otherwise. -/
theorem calm_declaredOr (state : Option String) {t : Token} (ht : Leads [] [t]) :
    Leads [] [(state.map Token.declared).getD t] := by
  cases state with
  | none => exact ht
  | some v => exact .declared v

theorem calm_setState (parameter v value : String) : Calm (setState parameter v value) := by
  have hassign : Leads [] [.declared v, .code (" = " ++ value ++ ";")] :=
    (Leads.declared v).calm_left (@Leads.ending [';'] _ rfl)
  have hline : Calm (.line [.declared v, .code (" = " ++ value ++ ";")]) := hassign
  refine .braces rfl (.only ?_)
  exact .block (.code rfl) (.only hline) (.code rfl)

theorem calm_noState (disabled : Bool) (parameter : String) :
    Calm (noState disabled parameter) := by
  cases disabled with
  | true => exact .row rfl
  | false => exact @Calm.rowEnding [')', ' ', '\x7b', '\x7d', ','] _ rfl

/-! ## Buttons -/

/-- The links of a target. -/
def targetLinks (target : Option String) : List Link :=
  target.toList.map fun target => .push ("/" ++ target)

theorem leads_pressed (target : Option String) :
    Leads (targetLinks target) (pressed target).tokens := by
  cases target with
  | none => exact Calm.row rfl
  | some target => exact .braces rfl (.only (.push _))

theorem calm_buttonLabel (s : String) : Calm (buttonLabel s) :=
  .call rfl (.all ⟨.textRow rfl, .row rfl⟩)

theorem calm_buttonShape (rounded : Bool) : Calm (buttonShape rounded) := by
  cases rounded with
  | true => exact .row rfl
  | false => exact .row rfl

theorem leads_filledButton (b : Content.Button) (background foreground : Color) {padding : Layout}
    (hpadding : Calm padding) :
    Leads (targetLinks b.target) (filledButton b background foreground padding).tokens := by
  refine .call rfl (.first (.attach (leads_pressed b.target)) ⟨.argument rfl (.all ?_), ?_⟩)
  · exact ⟨.colorRow rfl, .colorRow rfl, calm_buttonShape _, hpadding, .row rfl⟩
  · exact .attach (calm_buttonLabel _)

theorem leads_button (b : Content.Button) :
    Ensures (fun l => Leads (targetLinks b.target) l.tokens) (button b) := by
  refine (calm_paddingRow b.padding).map fun padding hpadding => ?_
  cases b.look with
  | filled => exact leads_filledButton b _ _ hpadding
  | secondary => exact leads_filledButton b _ _ hpadding
  | outlined =>
      refine .call rfl (.first (.attach (leads_pressed b.target)) ⟨.argument rfl (.all ?_), ?_⟩)
      · exact ⟨.colorRow rfl, .colorRow rfl, calm_buttonShape _, hpadding⟩
      · exact .attach (calm_buttonLabel _)

/-! ## Controls -/

theorem calm_control (state : Option String) (c : Control) : Calm (control state c) := by
  cases c with
  | toggle on disabled active inactive =>
      refine .call rfl (.all ⟨.around rfl (calm_declaredOr state (calm_truth on)), ?_⟩)
      refine ⟨.colorRow rfl, .colorRow rfl, ?_⟩
      cases state with
      | none => exact calm_noState _ _
      | some v => exact calm_setState _ _ _
  | checkbox on disabled active =>
      refine .call rfl (.all ⟨.around rfl (calm_declaredOr state (calm_truth on)), ?_⟩)
      refine ⟨.colorRow rfl, ?_⟩
      cases state with
      | none => exact calm_noState _ _
      | some v => exact calm_setState _ _ _
  | radio on disabled active group =>
      refine .call rfl (.all ⟨.textRow rfl, .around rfl ?_, .colorRow rfl, calm_noState _ _⟩)
      cases on with
      | true => exact .literal group
      | false => exact .code rfl

theorem calm_choosable (c : Content.Choosable) (index : Int) : Calm (choosable c index) := by
  have hcontrol := calm_control (stateOf? c index) c.control
  rw [choosable, withLabel]
  split
  · exact hcontrol
  · refine .call rfl (.all ⟨.row rfl, .children ?_⟩)
    exact ⟨hcontrol, calm_gapAcross _, .textRow rfl⟩

theorem calm_labeled (l : Content.Labeled) : Calm (labeled l) := by
  have hcontrol : Calm (control none l.control) := calm_control none l.control
  have hlabel : Calm (call "Text"
      [textRow "" l.label ",", colorRow "style: TextStyle(color: " l.labelColor "),"]) :=
    .call rfl (.all ⟨.textRow rfl, .colorRow rfl⟩)
  have hgap : Calm (gapAcross "12.0") := calm_gapAcross _
  refine .call rfl (.only (Calm.children (forall_ite ?_ ?_)))
  · exact ⟨hlabel, hgap, hcontrol⟩
  · exact ⟨hcontrol, hgap, hlabel⟩

/-! ## Inputs -/

theorem calm_textField (f : Content.TextField) : Calm (textField f) := by
  refine .call rfl (.only (.argument rfl (.all ?_)))
  simp only [List.forall_append]
  refine ⟨⟨⟨⟨forall_ite trivial ?_, ?_⟩, ?_⟩, ?_⟩, ?_⟩
  · exact .textRow rfl
  · exact .textRow rfl
  · exact forall_option (fun name => .around rfl (.icon name)) _
  · exact forall_option (fun _ => .textRow rfl) _
  · exact .attach (calm_inputBorder none)

theorem calm_selection (d : Content.Dropdown) : Leads [] [selection d] := by
  rw [selection]
  split
  · exact .literal _
  · exact .code rfl

theorem calm_menuItem (c : Choice) : Calm (menuItem c) :=
  .argument rfl (.all ⟨.textRow rfl, .textRow rfl⟩)

theorem calm_dropdown (d : Content.Dropdown) (index : Int) : Calm (dropdown d index) := by
  have hitems : (d.choices.map menuItem).Forall Calm :=
    List.forall_iff_forall_mem.mpr (List.forall_mem_map.mpr fun c _ => calm_menuItem c)
  refine .call rfl (.all ⟨.argument rfl (.all ?_), .row rfl, ?_, .brackets (.all hitems), ?_⟩)
  · simp only [List.forall_append]
    refine ⟨⟨forall_ite trivial (.textRow rfl), forall_ite trivial (.textRow rfl)⟩, ?_⟩
    exact ⟨.row rfl, .colorRow rfl, .attach (calm_inputBorder _)⟩
  · exact .around rfl (calm_declaredOr _ (calm_selection d))
  · split
    · exact calm_noState _ _
    · split
      · exact calm_setState _ _ _
      · exact calm_noState _ _

theorem calm_inputField (i : Content.Input) : Calm (inputField i) := by
  refine .call rfl (.all ?_)
  simp only [List.forall_append]
  refine ⟨⟨⟨⟨forall_ite trivial ?_, forall_ite ?_ trivial⟩, forall_ite ?_ trivial⟩, ?_⟩, ?_⟩
  · exact .textRow rfl
  · exact .row rfl
  · exact .row rfl
  · exact forall_option (fun name => Calm.rowComma _) _
  · exact .argument rfl (.all ⟨.textRow rfl, .attach (calm_inputBorder _)⟩)

theorem calm_input (i : Content.Input) : Calm (input i) := by
  refine .call rfl (.all ⟨.row rfl, .children ⟨.call rfl (.all ?_), ?_⟩⟩)
  · exact ⟨.textRow rfl, .argument rfl (.all ⟨.row rfl, .colorRow rfl⟩)⟩
  · exact ⟨calm_gapDown _, calm_inputField i⟩

/-! ## Chats -/

theorem calm_composer (c : Content.Composer) : Calm (composer c) := by
  refine .call rfl (.only (Calm.children ⟨.call rfl (.only ?_), ?_⟩))
  · refine .argument rfl (.only (.argument rfl (.all ⟨.textRow rfl, ?_⟩)))
    exact ⟨.attach (calm_inputBorder none), .row rfl, .row rfl⟩
  · refine ⟨calm_gapAcross _, .call rfl (.all ⟨.row rfl, ?_⟩)⟩
    exact ⟨.argument rfl (.all ⟨.colorRow rfl, .colorRow rfl⟩), .textRow rfl⟩

theorem calm_bubble (m : Content.Message) : Calm (bubble m) := by
  refine .call rfl (.all ⟨.row rfl, .argument rfl (.all ?_), .argument rfl (.all ?_)⟩)
  · exact ⟨.colorRow rfl, .row rfl⟩
  · exact ⟨.textRow rfl, .colorRow rfl⟩

theorem calm_messageColumn (m : Content.Message) : Calm (messageColumn m) := by
  refine .call rfl (.all ⟨.row rfl, Calm.rowComma _, .children ?_⟩)
  rw [List.forall_cons]
  exact ⟨calm_bubble m, forall_ite (.textRow rfl) trivial⟩

theorem calm_message (m : Content.Message) : Calm (message m) := by
  have hcolumn := calm_messageColumn m
  rw [message]
  split
  · have havatar : Calm (colorRow "CircleAvatar(radius: 16, backgroundColor: " m.avatarColor ")") :=
      .colorRow rfl
    have hgap : Calm (gapAcross "8.0") := calm_gapAcross _
    have hflexible : Calm (call "Flexible" [attach "child" (messageColumn m)]) :=
      .call rfl (.only (.attach hcolumn))
    refine .call rfl (.all ⟨Calm.rowComma _, .row rfl, .children (forall_ite ?_ ?_)⟩)
    · exact ⟨hflexible, hgap, havatar⟩
    · exact ⟨havatar, hgap, hflexible⟩
  · refine .call rfl (.all ⟨?_, .attach hcolumn⟩)
    split
    · exact .row rfl
    · exact .row rfl

/-! ## Surfaces -/

theorem calm_image (height : Number) : Ensures (List.Forall Calm) (image height) := by
  have hheight : Ensures Calm (numberRow "height: " height ",") := calm_numberRow rfl
  refine hheight.map fun row hrow => ⟨.call rfl (.all ⟨hrow, .row rfl, ?_, ?_⟩), calm_gapDown _⟩
  · exact .argument rfl (.all ⟨.row rfl, .row rfl⟩)
  · have hicon : Calm (.line [.icon "image", .code ","]) :=
      (Leads.icon _).calm_left (@Leads.code [','] rfl)
    exact .argument rfl (.all ⟨hicon, .row rfl, .row rfl⟩)

theorem calm_cardTexts (c : Content.Card) : (cardTexts c).Forall Calm := by
  simp only [cardTexts, List.forall_append]
  refine ⟨⟨?_, forall_ite trivial ⟨calm_gapDown _, ?_⟩⟩, calm_gapDown _, ?_⟩
  · exact .call rfl (.all ⟨.textRow rfl, .row rfl⟩)
  · exact .call rfl (.all ⟨.textRow rfl, .row rfl⟩)
  · exact .call rfl (.all ⟨.textRow rfl, .row rfl⟩)

theorem calm_card (c : Content.Card) : Ensures Calm (card c) := by
  have helevation : Ensures Calm (numberRow "elevation: " c.elevation ",") := calm_numberRow rfl
  have hradius : Ensures Calm
      (numberRow "borderRadius: BorderRadius.circular(" c.borderRadius "),") := calm_numberRow rfl
  rw [card]
  cases c.imageHeight
  -- The rest of the card is the same with an image and without one.
  all_goals refine .bind (P := List.Forall Calm) ?_ fun image himage => ?_
  case none.refine_1 => exact trivial
  case some.refine_1 height => exact calm_image height
  all_goals
    refine helevation.bind fun elevation helevation => hradius.bind fun radius hradius => ?_
    refine (calm_paddingRow c.padding).bind fun padding hpadding => ?_
    refine Leads.call rfl (.all ⟨helevation, .colorRow rfl, .row rfl, ?_, ?_⟩)
    · exact .argument rfl (.only hradius)
    · refine .argument rfl (.all ⟨hpadding, .argument rfl (.all ⟨.row rfl, .children ?_⟩)⟩)
      exact List.forall_append.mpr ⟨himage, calm_cardTexts c⟩

theorem calm_tile (l : Content.Listing) (t : Tile) : Ensures Calm (tile l t) := by
  have hextent : Ensures Calm (tileExtent l) := by
    rw [tileExtent]
    split
    · exact Calm.row rfl
    · exact calm_numberRow rfl
  refine hextent.map fun extent hextent => ?_
  refine .call rfl (.all ⟨hextent, ?_, .argument rfl (.all ?_), .attach (.call rfl (.all ?_))⟩)
  · split
    · exact .row rfl
    · exact .row rfl
  · exact ⟨.row rfl, .row rfl, .row rfl⟩
  · refine List.forall_append.mpr ⟨⟨.around rfl (.icon _), .argument rfl (.all ?_), ?_⟩, ?_⟩
    · exact ⟨.textRow rfl, .row rfl⟩
    · exact .textRow rfl
    · exact forall_ite trivial (.around rfl (.icon _))

theorem calm_listing (l : Content.Listing) : Ensures Calm (listing l) := by
  refine (Ensures.mapM fun t _ => calm_tile l t).map fun tiles htiles => ?_
  refine .call rfl (.all ?_)
  simp only [List.forall_append]
  refine ⟨⟨forall_ite ?_ trivial, forall_ite trivial ?_⟩, ?_⟩
  · exact .row rfl
  · exact .row rfl
  · exact .children (List.forall_iff_forall_mem.mpr htiles)

theorem calm_glyph (g : Content.Glyph) : Ensures Calm (glyph g) := by
  have hsize : Ensures Calm (numberRow "size: " g.size ",") := calm_numberRow rfl
  have hicon : Calm (.line [.icon g.icon, .code ","]) :=
    (Leads.icon _).calm_left (@Leads.code [','] rfl)
  exact hsize.map fun size hsize => .call rfl (.all ⟨hicon, .colorRow rfl, hsize⟩)

theorem calm_container (c : Content.Container) : Ensures Calm (container c) := by
  have hmargin : Ensures Calm (numberRow "margin: EdgeInsets.all(" c.margin "),") :=
    calm_numberRow rfl
  have hradius : Ensures Calm
      (numberRow "borderRadius: BorderRadius.circular(" c.borderRadius "),") := calm_numberRow rfl
  refine (calm_paddingRow c.padding).bind fun padding hpadding => ?_
  refine hmargin.bind fun margin hmargin => hradius.bind fun radius hradius => ?_
  exact Leads.call rfl (.all ⟨hpadding, hmargin, .argument rfl (.all ⟨.colorRow rfl, hradius⟩)⟩)

/-! ## Rows, columns and stacks -/

theorem calm_block (width height shade : String) : Calm (block width height shade) :=
  .call rfl (.all ⟨.rowComma _, .rowComma _, .rowComma _⟩)

theorem calm_flex (f : Content.Flex) : Ensures Calm (flex f) := by
  refine (calm_paddingRow f.padding).map fun padding hpadding => ?_
  cases f.direction with
  | row =>
      have hgap : Calm (gapAcross "8.0") := calm_gapAcross _
      have hblock : Calm (block "30.0" "30.0" "300") := calm_block _ _ _
      refine .call rfl (.all ⟨hpadding, .argument rfl (.all ⟨Calm.rowComma _, ?_⟩)⟩)
      exact ⟨Calm.rowComma _, .children ⟨hblock, hgap, hblock, hgap, hblock⟩⟩
  | column =>
      have hgap : Calm (gapDown "8.0") := calm_gapDown _
      have hblock : Calm (block "100.0" "30.0" "300") := calm_block _ _ _
      refine .call rfl (.all ⟨hpadding, .argument rfl (.all ⟨Calm.rowComma _, ?_⟩)⟩)
      exact ⟨Calm.rowComma _, .children ⟨hblock, hgap, hblock, hgap, hblock⟩⟩

theorem calm_stack (s : Content.Stack) : Ensures Calm (stack s) := by
  refine (calm_paddingRow s.padding).map fun padding hpadding => ?_
  refine .call rfl (.all ⟨hpadding, .argument rfl (.all ⟨Calm.rowComma _, ?_⟩)⟩)
  exact .children ⟨calm_block _ _ _, calm_block _ _ _⟩

/-! ## Tables -/

theorem calm_dataColumn (sortable : Bool) (c : Column) : Calm (dataColumn sortable c) := by
  cases sortable with
  | true => exact .argument rfl (.all ⟨.textRow rfl, .row rfl⟩)
  | false => exact .textRow rfl

theorem calm_dataRow (g : Content.Grid) (position : Nat) (cells : ScreenDesign.Row) :
    Calm (dataRow g position cells) := by
  refine .argument rfl (.all (List.forall_append.mpr ⟨?_, .brackets (.all ?_)⟩))
  · exact forall_option (fun _ => .colorRow rfl) _
  · exact List.forall_iff_forall_mem.mpr (List.forall_mem_map.mpr fun c _ => .textRow rfl)

theorem calm_dataTable (g : Content.Grid) : Calm (dataTable g) := by
  refine .call rfl (.all ?_)
  simp only [List.forall_append]
  refine ⟨⟨?_, forall_ite (.colorRow rfl) trivial⟩, .brackets (.all ?_), .brackets (.all ?_)⟩
  · split
    · exact .colorRow rfl
    · exact .row rfl
  · exact List.forall_iff_forall_mem.mpr (List.forall_mem_map.mpr fun c _ => calm_dataColumn _ c)
  · refine List.forall_iff_forall_mem.mpr fun l hl => ?_
    obtain ⟨i, hi, rfl⟩ := List.mem_mapIdx.mp hl
    exact calm_dataRow g i _

theorem calm_gridTitle (s : String) : Calm (gridTitle s) := by
  refine .call rfl (.all ⟨.row rfl, .argument rfl (.all ⟨.textRow rfl, .argument rfl ?_⟩)⟩)
  exact .all ⟨.row rfl, .row rfl⟩

theorem calm_grid (g : Content.Grid) : Calm (grid g) := by
  refine .call rfl (.all ⟨.row rfl, .children (List.forall_append.mpr ⟨forall_ite trivial ?_, ?_⟩)⟩)
  · exact calm_gridTitle g.title
  · refine .call rfl (.only (.argument rfl (.all ⟨.row rfl, .attach ?_⟩)))
    exact calm_dataTable g

/-! ## Everything -/

/-- The target of a content, if it is a button that leads somewhere. -/
def contentTarget? : Content → Option String
  | .button b => b.target
  | _ => none

/-- The only link of a widget is the one to the target of a button. -/
theorem leads_widget (index : Int) (c : Content) :
    Ensures (fun l => Leads (targetLinks (contentTarget? c)) l.tokens) (widget index c) := by
  cases c with
  | button b => exact leads_button b
  | textField f => exact calm_textField f
  | card c => exact calm_card c
  | list l => exact calm_listing l
  | icon g => exact calm_glyph g
  | container c => exact calm_container c
  | flex f => exact calm_flex f
  | stack s => exact calm_stack s
  | choosable c => exact calm_choosable c index
  | control c => exact calm_control none c
  | labeled l => exact calm_labeled l
  | composer c => exact calm_composer c
  | message m => exact calm_message m
  | dropdown d => exact calm_dropdown d index
  | input i => exact calm_input i
  | grid g => exact calm_grid g

end ScreenDesign.Dart
