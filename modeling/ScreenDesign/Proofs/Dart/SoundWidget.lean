import ScreenDesign.Proofs.Dart.Names
import ScreenDesign.Proofs.Dart.Sound

/-!
# Widgets are sound

Every widget is a sound layout without remarks, whatever texts, numbers and colors
it shows.  The names of its icons must be plain code, which the names of a content
that was read are.

Each lemma follows the definition of its widget, piece by piece.
-/

namespace ScreenDesign.Dart

open Layout

/-! ## Results -/

/-- A result has a property, or is a failure. -/
def Ensures {α : Type} (P : α → Prop) : Except Failure α → Prop
  | .ok a => P a
  | .error _ => True

namespace Ensures

variable {α β : Type} {P : α → Prop} {Q : β → Prop}

theorem map {x : Except Failure α} {f : α → β} (hx : Ensures P x) (hf : ∀ a, P a → Q (f a)) :
    Ensures Q (x.map f) := by
  cases x with
  | error e => trivial
  | ok a => exact hf a hx

theorem bind {x : Except Failure α} {f : α → Except Failure β} (hx : Ensures P x)
    (hf : ∀ a, P a → Ensures Q (f a)) : Ensures Q (x >>= f) := by
  cases x with
  | error e => trivial
  | ok a => exact hf a hx

theorem mapM {f : α → Except Failure β} {as : List α} (h : ∀ a ∈ as, Ensures Q (f a)) :
    Ensures (fun bs => ∀ b ∈ bs, Q b) (as.mapM f) := by
  induction as with
  | nil => exact nofun
  | cons a as ih =>
      obtain ⟨ha, has⟩ := List.forall_mem_cons.mp h
      rw [List.mapM_cons]
      refine ha.bind fun b hb => (ih has).bind fun bs hbs => ?_
      exact List.forall_mem_cons.mpr ⟨hb, hbs⟩

end Ensures

/-! ## Pieces -/

theorem sound_row_of_plain {s : String} (h : PlainName s) : Sound false (row s) :=
  .row_of_closed (closed_of_plain h)

theorem ensures_numberBetween {before after : String} {n : Number}
    (h : surrounds before.toList after.toList = true) :
    Ensures (Sound false) (numberRow before n after) := by
  rw [numberRow]
  cases double n with
  | error e => trivial
  | ok x => exact .between h (.number x)

theorem ensures_numberRow {cs ds : List Char} {n : Number} (h : surrounds cs ds = true) :
    Ensures (Sound false) (numberRow (String.ofList cs) n (String.ofList ds)) :=
  ensures_numberBetween (by rwa [String.toList_ofList, String.toList_ofList])

theorem ensures_paddingRow (n : Number) : Ensures (Sound false) (paddingRow n) :=
  ensures_numberRow rfl

/-- A plain name between fixed source text. -/
theorem closed_named {s : String} {cs ds : List Char} (h : surrounds cs ds = true)
    (hs : PlainName s) :
    closed (String.ofList cs ++ s ++ String.ofList ds).toList = true := by
  rw [String.toList_append, String.toList_append, String.toList_ofList, String.toList_ofList]
  exact closed_around hs h

theorem sound_gapAcross {cs : List Char} (h : cs.all isPlain = true) :
    Sound false (gapAcross (String.ofList cs)) :=
  .row_of_closed (closed_named rfl (plainName_ofList h))

theorem sound_gapDown {cs : List Char} (h : cs.all isPlain = true) :
    Sound false (gapDown (String.ofList cs)) :=
  .row_of_closed (closed_named rfl (plainName_ofList h))

theorem sound_inputBorder (c : Option Color) : Sound false (inputBorder c) := by
  refine .call rfl ⟨.row rfl, .option ?_⟩
  intro a ha
  exact .colorRow rfl

theorem whole_truth (b : Bool) : (truth b).Whole := by
  cases b with
  | false => exact .code rfl
  | true => exact .code rfl

theorem sound_setState {ps vs : List Char} {name : String} (hps : ps.all isPlain = true)
    (hvs : vs.all isPlain = true) (hname : PlainName name) :
    Sound false (setState (String.ofList ps) name (String.ofList vs)) := by
  have hassign : PlainName (" = " ++ String.ofList vs ++ ";") :=
    .append (.append (plainName_ofList rfl) (plainName_ofList hvs)) (plainName_ofList rfl)
  have hbrackets : rowBrackets [.declared name, .code (" = " ++ String.ofList vs ++ ";")] = [] :=
    (rowBrackets_code _).trans (filter_isBracket_of_plain hassign)
  refine .braces_of_closed (closed_named rfl (plainName_ofList hps)) rfl ?_
  refine ⟨.fixedBlock rfl ⟨.line ⟨hname, all_isInert hassign, trivial⟩ ?_, trivial⟩, trivial⟩
  rw [hbrackets]
  rfl

theorem sound_noState {disabled : Bool} {ps : List Char} (h : ps.all isPlain = true) :
    Sound false (noState disabled (String.ofList ps)) := by
  cases disabled with
  | true => exact .row rfl
  | false => exact .row_of_closed (closed_named rfl (plainName_ofList h))

/-! ## Buttons -/

theorem sound_pressed (target : Option String) : Sound false (pressed target) := by
  cases target with
  | none => exact .row rfl
  | some s => exact .braces rfl rfl ⟨.around rfl (.literal _), trivial⟩

theorem sound_buttonLabel (s : String) : Sound false (buttonLabel s) :=
  .call rfl ⟨.textRow rfl, .row rfl, trivial⟩

theorem sound_buttonShape (rounded : Bool) : Sound false (buttonShape rounded) := by
  cases rounded with
  | true => exact .row rfl
  | false => exact .row rfl

theorem sound_filledButton (b : Content.Button) (background foreground : Color)
    {padding : Layout} (hpadding : Sound false padding) :
    Sound false (filledButton b background foreground padding) := by
  refine .call rfl ⟨.attach rfl (sound_pressed _), ?_⟩
  refine ⟨.argument rfl ?_, .attach rfl (sound_buttonLabel _), trivial⟩
  exact ⟨.colorRow rfl, .colorRow rfl, sound_buttonShape _, hpadding, .row rfl, trivial⟩

theorem ensures_button (b : Content.Button) : Ensures (Sound false) (button b) := by
  refine (ensures_paddingRow b.padding).map fun padding hpadding => ?_
  cases b.look with
  | filled => exact sound_filledButton b _ _ hpadding
  | secondary => exact sound_filledButton b _ _ hpadding
  | outlined =>
      refine .call rfl ⟨.attach rfl (sound_pressed _), ?_⟩
      refine ⟨.argument rfl ?_, .attach rfl (sound_buttonLabel _), trivial⟩
      exact ⟨.colorRow rfl, .colorRow rfl, sound_buttonShape _, hpadding, trivial⟩

/-! ## Controls -/

/-- The state variable that a control shows, if there is one, is a plain name. -/
def PlainState (state : Option String) : Prop := ∀ v ∈ state, PlainName v

theorem plainState_none : PlainState none := by
  intro v hv
  cases hv

theorem sound_control {state : Option String} (hstate : PlainState state) (c : Control) :
    Sound false (control state c) := by
  cases c with
  | toggle on disabled active inactive =>
      refine .call rfl ⟨.around rfl (.declaredOr hstate (whole_truth on)), ?_⟩
      refine ⟨.colorRow rfl, .colorRow rfl, ?_, trivial⟩
      cases state with
      | none => exact sound_noState rfl
      | some v => exact sound_setState rfl rfl (hstate v rfl)
  | checkbox on disabled active =>
      refine .call rfl ⟨.around rfl (.declaredOr hstate (whole_truth on)), ?_⟩
      refine ⟨.colorRow rfl, ?_, trivial⟩
      cases state with
      | none => exact sound_noState rfl
      | some v => exact sound_setState rfl rfl (hstate v rfl)
  | radio on disabled active group =>
      refine .call rfl ⟨.textRow rfl, .around rfl ?_, ?_⟩
      · cases on with
        | true => exact .literal group
        | false => exact .code rfl
      · exact ⟨.colorRow rfl, sound_noState rfl, trivial⟩

theorem sound_withLabel {l : Layout} (hl : Sound false l) (label : String) :
    Sound false (withLabel l label) := by
  rw [withLabel]
  split
  · exact hl
  · refine .call rfl ⟨.row rfl, .children ?_, trivial⟩
    exact ⟨hl, sound_gapAcross rfl, .textRow rfl, trivial⟩

theorem plainState_stateOf? (c : Content.Choosable) (index : Int) :
    PlainState (stateOf? c index) := by
  intro v hv
  simp only [stateOf?] at hv
  split at hv
  · obtain ⟨stem, hstem, rfl⟩ := Option.map_eq_some_iff.mp hv
    refine .append ?_ (plainName_decimalText index)
    cases hcontrol : c.control with
    | toggle => rw [hcontrol] at hstem; cases hstem; exact plainName_ofList rfl
    | checkbox => rw [hcontrol] at hstem; cases hstem; exact plainName_ofList rfl
    | radio => rw [hcontrol] at hstem; cases hstem
  · cases hv

theorem sound_choosable (c : Content.Choosable) (index : Int) :
    Sound false (choosable c index) :=
  sound_withLabel (sound_control (plainState_stateOf? c index) c.control) c.label

theorem sound_labeled (l : Content.Labeled) : Sound false (labeled l) := by
  have hcontrol : Sound false (control none l.control) := sound_control plainState_none l.control
  have hlabel : Sound false (call "Text"
      [textRow "" l.label ",", colorRow "style: TextStyle(color: " l.labelColor "),"]) :=
    .call rfl ⟨.textRow rfl, .colorRow rfl, trivial⟩
  have hgap : Sound false (gapAcross "12.0") := sound_gapAcross rfl
  refine .call rfl ⟨.children (.ite ?_ ?_), trivial⟩
  · exact ⟨hlabel, hgap, hcontrol, trivial⟩
  · exact ⟨hcontrol, hgap, hlabel, trivial⟩

/-! ## Inputs -/

theorem sound_textField {f : Content.TextField} (hicon : ∀ name ∈ f.icon, PlainName name) :
    Sound false (textField f) := by
  refine .call rfl ⟨.argument rfl ?_, trivial⟩
  refine .append (.append (.append (.append (.ite trivial ?_) ?_) ?_) ?_) ?_
  · exact ⟨.textRow rfl, trivial⟩
  · exact ⟨.textRow rfl, trivial⟩
  · exact .option fun name hname => .around rfl (.icon (hicon name hname))
  · exact .option fun _ _ => .textRow rfl
  · exact ⟨.attach rfl (sound_inputBorder none), trivial⟩

theorem plainState_dropdownState? (d : Content.Dropdown) (index : Int) :
    PlainState (dropdownState? d index) := by
  intro v hv
  simp only [dropdownState?] at hv
  split at hv
  · cases hv
    exact .append (plainName_ofList rfl) (plainName_decimalText index)
  · cases hv

theorem whole_selection (d : Content.Dropdown) : (selection d).Whole := by
  rw [selection]
  split
  · exact .literal _
  · exact .code rfl

theorem sound_menuItem (c : Choice) : Sound false (menuItem c) :=
  .argument rfl ⟨.textRow rfl, .textRow rfl, trivial⟩

theorem sound_dropdown (d : Content.Dropdown) (index : Int) : Sound false (dropdown d index) := by
  have hstate := plainState_dropdownState? d index
  refine .call rfl ⟨.argument rfl (.append (.append (.ite trivial ?_) (.ite trivial ?_)) ?_), ?_⟩
  · exact ⟨.textRow rfl, trivial⟩
  · exact ⟨.textRow rfl, trivial⟩
  · exact ⟨.row rfl, .colorRow rfl, .attach rfl (sound_inputBorder _), trivial⟩
  refine ⟨.row rfl, .around rfl (.declaredOr hstate (whole_selection d)), ?_⟩
  refine ⟨.brackets rfl (.map fun c _ => sound_menuItem c), ?_, trivial⟩
  split
  · exact sound_noState rfl
  · split
    · rename_i v hv
      exact sound_setState rfl rfl (hstate v hv)
    · exact sound_noState rfl

theorem plainName_keyboard? {kind name : String} (h : keyboard? kind = some name) :
    PlainName name := by
  simp only [keyboard?] at h
  split at h
  · cases h; exact plainName_ofList rfl
  split at h
  · cases h; exact plainName_ofList rfl
  split at h
  · cases h; exact plainName_ofList rfl
  split at h
  · cases h; exact plainName_ofList rfl
  · cases h

theorem sound_inputField (i : Content.Input) : Sound false (inputField i) := by
  refine .call rfl (.append (.append (.append (.append (.ite trivial ?_) ?_) ?_) ?_) ?_)
  · exact ⟨.textRow rfl, trivial⟩
  · exact .ite ⟨.row rfl, trivial⟩ trivial
  · exact .ite ⟨.row rfl, trivial⟩ trivial
  · refine .option fun name hname => .row_of_closed ?_
    exact closed_named rfl (plainName_keyboard? hname)
  · refine ⟨.argument rfl ⟨.textRow rfl, .attach rfl ?_, trivial⟩, trivial⟩
    exact sound_inputBorder _

theorem sound_input (i : Content.Input) : Sound false (input i) := by
  refine .call rfl ⟨.row rfl, .children ⟨.call rfl ?_, ?_⟩, trivial⟩
  · exact ⟨.textRow rfl, .argument rfl ⟨.row rfl, .colorRow rfl, trivial⟩, trivial⟩
  · exact ⟨sound_gapDown rfl, sound_inputField i, trivial⟩

/-! ## Chats -/

theorem sound_composer (c : Content.Composer) : Sound false (composer c) := by
  refine .call rfl ⟨.children ⟨.call rfl ⟨.argument rfl ?_, trivial⟩, ?_⟩, trivial⟩
  · refine ⟨.argument rfl ⟨.textRow rfl, .attach rfl (sound_inputBorder none), ?_⟩, trivial⟩
    exact ⟨.row rfl, .row rfl, trivial⟩
  · refine ⟨sound_gapAcross rfl, .call rfl ⟨.row rfl, ?_⟩, trivial⟩
    exact ⟨.argument rfl ⟨.colorRow rfl, .colorRow rfl, trivial⟩, .textRow rfl, trivial⟩

theorem sound_bubble (m : Content.Message) : Sound false (bubble m) := by
  refine .call rfl ⟨.row rfl, .argument rfl ?_, .argument rfl ?_, trivial⟩
  · exact ⟨.colorRow rfl, .row rfl, trivial⟩
  · exact ⟨.textRow rfl, .colorRow rfl, trivial⟩

theorem plainName_side (m : Content.Message) : PlainName (side m) := by
  rw [side]
  split
  · exact plainName_ofList rfl
  · exact plainName_ofList rfl

theorem sound_messageColumn (m : Content.Message) : Sound false (messageColumn m) := by
  refine .call rfl ⟨.row rfl, .row_of_closed (closed_named rfl (plainName_side m)), ?_⟩
  refine ⟨.children ⟨sound_bubble m, .ite ?_ trivial⟩, trivial⟩
  exact ⟨.textRow rfl, trivial⟩

theorem sound_message (m : Content.Message) : Sound false (message m) := by
  have hcolumn := sound_messageColumn m
  rw [message]
  split
  · have havatar : Sound false
        (colorRow "CircleAvatar(radius: 16, backgroundColor: " m.avatarColor ")") := .colorRow rfl
    have hgap : Sound false (gapAcross "8.0") := sound_gapAcross rfl
    have hflexible : Sound false (call "Flexible" [attach "child" (messageColumn m)]) :=
      .call rfl ⟨.attach rfl hcolumn, trivial⟩
    refine .call rfl ⟨.row_of_closed (closed_named rfl (plainName_side m)), .row rfl, ?_⟩
    refine ⟨.children (.ite ?_ ?_), trivial⟩
    · exact ⟨hflexible, hgap, havatar, trivial⟩
    · exact ⟨havatar, hgap, hflexible, trivial⟩
  · refine .call rfl ⟨?_, .attach rfl hcolumn, trivial⟩
    split
    · exact .row rfl
    · exact .row rfl

/-! ## Surfaces -/

theorem ensures_image (height : Number) : Ensures (Each false) (image height) := by
  have hheight : Ensures (Sound false) (numberRow "height: " height ",") := ensures_numberRow rfl
  refine hheight.map fun row hrow => ?_
  refine ⟨.call rfl ?_, sound_gapDown rfl, trivial⟩
  refine ⟨hrow, .row rfl, .argument rfl ?_, .argument rfl ?_, trivial⟩
  · exact ⟨.row rfl, .row rfl, trivial⟩
  · exact ⟨.leading rfl (.icon (plainName_ofList rfl)), .row rfl, .row rfl, trivial⟩

theorem each_cardTexts (c : Content.Card) : Each false (cardTexts c) := by
  refine .append (.append ⟨.call rfl ?_, trivial⟩ (.ite trivial ?_)) ?_
  · exact ⟨.textRow rfl, .row rfl, trivial⟩
  · refine ⟨sound_gapDown rfl, .call rfl ?_, trivial⟩
    exact ⟨.textRow rfl, .row rfl, trivial⟩
  · refine ⟨sound_gapDown rfl, .call rfl ?_, trivial⟩
    exact ⟨.textRow rfl, .row rfl, trivial⟩

theorem ensures_card (c : Content.Card) : Ensures (Sound false) (card c) := by
  have helevation : Ensures (Sound false) (numberRow "elevation: " c.elevation ",") :=
    ensures_numberRow rfl
  have hradius : Ensures (Sound false)
      (numberRow "borderRadius: BorderRadius.circular(" c.borderRadius "),") :=
    ensures_numberRow rfl
  rw [card]
  cases c.imageHeight
  -- The rest of the card is the same with an image and without one.
  all_goals refine .bind (P := Each false) ?_ fun image himage => ?_
  case none.refine_1 => exact trivial
  case some.refine_1 height => exact ensures_image height
  all_goals
    refine helevation.bind fun elevation helevation => hradius.bind fun radius hradius => ?_
    refine (ensures_paddingRow c.padding).bind fun padding hpadding => ?_
    refine Sound.call rfl ⟨helevation, .colorRow rfl, .row rfl, .argument rfl ?_, ?_⟩
    · exact ⟨hradius, trivial⟩
    · refine ⟨.argument rfl ⟨hpadding, .argument rfl ⟨.row rfl, ?_⟩, trivial⟩, trivial⟩
      exact ⟨.children (.append himage (each_cardTexts c)), trivial⟩

theorem ensures_tileExtent (l : Content.Listing) : Ensures (Sound false) (tileExtent l) := by
  rw [tileExtent]
  split
  · exact Sound.row rfl
  · exact ensures_numberRow rfl

theorem ensures_tile (l : Content.Listing) {t : Tile} (hicon : PlainName t.icon) :
    Ensures (Sound false) (tile l t) := by
  refine (ensures_tileExtent l).map fun extent hextent => ?_
  refine .call rfl ⟨hextent, ?_, .argument rfl ?_, .attach rfl (.call rfl ?_), trivial⟩
  · split
    · exact .row rfl
    · exact .row rfl
  · exact ⟨.row rfl, .row rfl, .row rfl, trivial⟩
  · refine .append ⟨.around rfl (.icon hicon), .argument rfl ?_, ?_⟩ (.ite trivial ?_)
    · exact ⟨.textRow rfl, .row rfl, trivial⟩
    · exact ⟨.textRow rfl, trivial⟩
    · exact ⟨.around rfl (.icon (plainName_ofList rfl)), trivial⟩

theorem ensures_listing {l : Content.Listing} (hicons : ∀ t ∈ l.tiles, PlainName t.icon) :
    Ensures (Sound false) (listing l) := by
  refine (Ensures.mapM fun t ht => ensures_tile l (hicons t ht)).map fun tiles htiles => ?_
  refine .call rfl (.append (.append (.ite ?_ trivial) (.ite trivial ?_)) ?_)
  · exact ⟨.row rfl, trivial⟩
  · exact ⟨.row rfl, trivial⟩
  · exact ⟨.children (each_iff.mpr htiles), trivial⟩

theorem ensures_glyph {g : Content.Glyph} (hicon : PlainName g.icon) :
    Ensures (Sound false) (glyph g) := by
  have hsize : Ensures (Sound false) (numberRow "size: " g.size ",") := ensures_numberRow rfl
  refine hsize.map fun size hsize => ?_
  exact .call rfl ⟨.leading rfl (.icon hicon), .colorRow rfl, hsize, trivial⟩

theorem ensures_container (c : Content.Container) : Ensures (Sound false) (container c) := by
  refine (ensures_paddingRow c.padding).bind fun padding hpadding => ?_
  have hmargin : Ensures (Sound false) (numberRow "margin: EdgeInsets.all(" c.margin "),") :=
    ensures_numberRow rfl
  have hradius : Ensures (Sound false)
      (numberRow "borderRadius: BorderRadius.circular(" c.borderRadius "),") :=
    ensures_numberRow rfl
  refine hmargin.bind fun margin hmargin => hradius.bind fun radius hradius => ?_
  refine Sound.call rfl ⟨hpadding, hmargin, .argument rfl ?_, trivial⟩
  exact ⟨.colorRow rfl, hradius, trivial⟩

/-! ## Rows, columns and stacks -/

theorem sound_block {ws hs ss : List Char} (hws : ws.all isPlain = true)
    (hhs : hs.all isPlain = true) (hss : ss.all isPlain = true) :
    Sound false (block (String.ofList ws) (String.ofList hs) (String.ofList ss)) := by
  have hshade : PlainName ("color: Colors.grey.shade" ++ String.ofList ss ++ ",") :=
    .append (.append (plainName_ofList rfl) (plainName_ofList hss)) (plainName_ofList rfl)
  refine .call rfl ⟨.row_of_closed (closed_named rfl (plainName_ofList hws)), ?_⟩
  refine ⟨.row_of_closed (closed_named rfl (plainName_ofList hhs)), ?_⟩
  exact ⟨sound_row_of_plain hshade, trivial⟩

theorem plainName_mainAxis (a : MainAxis) : PlainName (mainAxis a) := by
  cases a <;> exact .append (plainName_ofList rfl) (plainName_ofList rfl)

theorem plainName_crossAxis (a : CrossAxis) : PlainName (crossAxis a) := by
  cases a <;> exact .append (plainName_ofList rfl) (plainName_ofList rfl)

theorem plainName_anchor (a : Anchor) : PlainName a.name := by
  cases a <;> exact plainName_ofList rfl

theorem ensures_flex (f : Content.Flex) : Ensures (Sound false) (flex f) := by
  have hmain := plainName_mainAxis f.main
  have hcross := plainName_crossAxis f.cross
  refine (ensures_paddingRow f.padding).map fun padding hpadding => ?_
  cases f.direction with
  | row =>
      refine .call rfl ⟨hpadding, .argument rfl ?_, trivial⟩
      refine ⟨.row_of_closed (closed_named rfl hmain), ?_⟩
      refine ⟨.row_of_closed (closed_named rfl hcross), .children ?_, trivial⟩
      have hgap : Sound false (gapAcross "8.0") := sound_gapAcross rfl
      have hblock : Sound false (block "30.0" "30.0" "300") := sound_block rfl rfl rfl
      exact ⟨hblock, hgap, hblock, hgap, hblock, trivial⟩
  | column =>
      refine .call rfl ⟨hpadding, .argument rfl ?_, trivial⟩
      refine ⟨.row_of_closed (closed_named rfl hmain), ?_⟩
      refine ⟨.row_of_closed (closed_named rfl hcross), .children ?_, trivial⟩
      have hgap : Sound false (gapDown "8.0") := sound_gapDown rfl
      have hblock : Sound false (block "100.0" "30.0" "300") := sound_block rfl rfl rfl
      exact ⟨hblock, hgap, hblock, hgap, hblock, trivial⟩

theorem ensures_stack (s : Content.Stack) : Ensures (Sound false) (stack s) := by
  refine (ensures_paddingRow s.padding).map fun padding hpadding => ?_
  refine .call rfl ⟨hpadding, .argument rfl ?_, trivial⟩
  refine ⟨.row_of_closed (closed_named rfl (plainName_anchor s.anchor)), ?_⟩
  exact ⟨.children ⟨sound_block rfl rfl rfl, sound_block rfl rfl rfl, trivial⟩, trivial⟩

/-! ## Tables -/

theorem sound_dataColumn (sortable : Bool) (c : Column) : Sound false (dataColumn sortable c) := by
  cases sortable with
  | true => exact .argument rfl ⟨.textRow rfl, .row rfl, trivial⟩
  | false => exact .textRow rfl

theorem sound_dataRow (g : Content.Grid) (position : Nat) (cells : ScreenDesign.Row) :
    Sound false (dataRow g position cells) := by
  refine .argument rfl (.append (.option fun _ _ => .colorRow rfl) ⟨.brackets rfl ?_, trivial⟩)
  exact .map fun _ _ => .textRow rfl

theorem sound_dataTable (g : Content.Grid) : Sound false (dataTable g) := by
  refine .call rfl (.append (.append ⟨?_, trivial⟩ (.ite ?_ trivial)) ?_)
  · split
    · exact .colorRow rfl
    · exact .row rfl
  · exact ⟨.colorRow rfl, trivial⟩
  · refine ⟨.brackets rfl (.map fun c _ => sound_dataColumn _ c), .brackets rfl ?_, trivial⟩
    refine each_iff.mpr fun l hl => ?_
    obtain ⟨i, hi, rfl⟩ := List.mem_mapIdx.mp hl
    exact sound_dataRow g i _

theorem sound_gridTitle (s : String) : Sound false (gridTitle s) := by
  refine .call rfl ⟨.row rfl, .argument rfl ⟨.textRow rfl, .argument rfl ?_, trivial⟩, trivial⟩
  exact ⟨.row rfl, .row rfl, trivial⟩

theorem sound_grid (g : Content.Grid) : Sound false (grid g) := by
  refine .call rfl ⟨.row rfl, .children (.append (.ite trivial ?_) ?_), trivial⟩
  · exact ⟨sound_gridTitle g.title, trivial⟩
  · refine ⟨.call rfl ⟨.argument rfl ⟨.row rfl, .attach rfl ?_, trivial⟩, trivial⟩, trivial⟩
    exact sound_dataTable g

/-! ## Everything -/

/-- The widget of a content is sound if the icons in the content have plain names. -/
theorem ensures_widget (index : Int) {c : Content} (h : ∀ name ∈ iconNames c, PlainName name) :
    Ensures (Sound false) (widget index c) := by
  cases c with
  | button b => exact ensures_button b
  | textField f => exact sound_textField fun name hname => h name (Option.mem_toList.mpr hname)
  | card c => exact ensures_card c
  | list l => exact ensures_listing fun t ht => h t.icon (List.mem_map_of_mem ht)
  | icon g => exact ensures_glyph (h g.icon (List.mem_singleton.mpr rfl))
  | container c => exact ensures_container c
  | flex f => exact ensures_flex f
  | stack s => exact ensures_stack s
  | choosable c => exact sound_choosable c index
  | control c => exact sound_control plainState_none c
  | labeled l => exact sound_labeled l
  | composer c => exact sound_composer c
  | message m => exact sound_message m
  | dropdown d => exact sound_dropdown d index
  | input i => exact sound_input i
  | grid g => exact sound_grid g

/-- A declaration with a plain name and a token that is sound by itself. -/
theorem sound_declaration {cs : List Char} {name : String} {t : Token}
    (hcs : cs.all isPlain = true) (hname : PlainName name) (ht : t.Whole) :
    Sound false
      (.line [.code (String.ofList cs), .declared name, .code " = ", t, .code ";"]) := by
  refine .line ⟨?_, hname, rfl, ht.fits, rfl, trivial⟩ ?_
  · rw [Token.Fits, String.toList_ofList]
    exact all_isInert hcs
  · have hcode : (Token.code (String.ofList cs)).brackets = [] := by
      rw [Token.brackets, String.toList_ofList, filter_isBracket_of_plain hcs]
    rw [rowBrackets, List.flatMap_cons, hcode]
    exact (congrArg (nest []) (List.append_nil t.brackets)).trans (ht.balanced [])

/-- The declaration of a state variable is sound. -/
theorem sound_stateField? {index : Int} {c : Content} {l : Layout}
    (h : stateField? index c = some l) : Sound false l := by
  cases c with
  | choosable c =>
      obtain ⟨v, hv, rfl⟩ := Option.map_eq_some_iff.mp h
      exact sound_declaration rfl (plainState_stateOf? c index v hv) (whole_truth _)
  | dropdown d =>
      obtain ⟨v, hv, rfl⟩ := Option.map_eq_some_iff.mp h
      exact sound_declaration rfl (plainState_dropdownState? d index v hv) (whole_selection d)
  | _ => cases h

end ScreenDesign.Dart
