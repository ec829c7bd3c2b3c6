import ScreenDesign.Proofs.Dart.Links
import ScreenDesign.Proofs.Dart.Mentions

/-!
# Mentions of widgets

A widget mentions no class.  Of its state it mentions only its own variable, which it shows behind
`value` and may set; and what stands behind `value` and `groupValue` are the values of its
controls and choices (`mentions_widget`).  The lemmas follow the definitions of the widgets.
-/

namespace ScreenDesign.Dart

open Layout

/-! ## What is mentioned -/

/-- The name of a state variable. -/
structure StateName (v : String) : Prop where
  /-- It is one name. -/
  one : v.toList.all isNamePart = true
  /-- It begins with an underscore. -/
  hidden : isPrivate v.toList = true

/-- A truth value as a word. -/
def truthWord (b : Bool) : Word :=
  if b then .name ['t', 'r', 'u', 'e'] else .name ['f', 'a', 'l', 's', 'e']

/-- The value that stands for nothing, as a word. -/
def nullWord : Word := .name ['n', 'u', 'l', 'l']

/-- A value, or the state variable that takes its place. -/
def shownMentions (state : Option String) (w : Word) : List Mention :=
  match state with
  | some v => [.value (.name v.toList), .names v]
  | none => [.value w]

def controlMentions (state : Option String) : Control → List Mention
  | .toggle on _ _ _ => shownMentions state (truthWord on) ++ state.toList.map .sets
  | .checkbox on _ _ => shownMentions state (truthWord on) ++ state.toList.map .sets
  | .radio on _ _ group =>
      [.value (.literal group), .group (if on then .literal group else nullWord)]

/-- The selected value of a dropdown as a word. -/
def selectionWord (d : Content.Dropdown) : Word :=
  match d.selected?.bind nonEmpty? with
  | some value => .literal value
  | none => nullWord

def dropdownMentions (state : Option String) (d : Content.Dropdown) : List Mention :=
  shownMentions state (selectionWord d) ++
    (d.choices.flatMap (fun c => [.value (.literal c.value)]) ++
      if d.disabled then [] else state.toList.map .sets)

/-- What the widget of a content with an index mentions. -/
def contentMentions (index : Int) : Content → List Mention
  | .choosable c => controlMentions (stateOf? c index) c.control
  | .control c => controlMentions none c
  | .labeled l => controlMentions none l.control
  | .dropdown d => dropdownMentions (dropdownState? d index) d
  | _ => []

/-! ## Pieces -/

theorem ordinary_numberRow {cs ds : List Char} {n : Number}
    (h : (isUsual cs && isUsual ds && cuts cs ds) = true) :
    Ensures Ordinary (numberRow (String.ofList cs) n (String.ofList ds)) := by
  rw [numberRow]
  cases double n with
  | error e => trivial
  | ok x => exact .line (.around h (.number x))

theorem ordinary_paddingRow (n : Number) : Ensures Ordinary (paddingRow n) := ordinary_numberRow rfl

theorem ordinary_inputBorder (c : Option Color) : Ordinary (inputBorder c) := by
  refine .call rfl ?_
  rw [List.forall_cons]
  exact ⟨.row rfl, forall_option (fun _ => .colorRow rfl) c⟩

theorem rowWords_truth (b : Bool) : rowWords [truth b] = [truthWord b] := by
  cases b <;> rfl

theorem isOrdinary_truthWord (b : Bool) : (truthWord b).isOrdinary = true := by
  cases b <;> rfl

theorem ordinary_noState (disabled : Bool) {parameter : String}
    (h : OrdinaryRow [.code ("onChanged: (" ++ parameter ++ ") \x7b\x7d,")]) :
    Ordinary (noState disabled parameter) := by
  have hnull : Ordinary (row "onChanged: null,") := .row rfl
  cases disabled with
  | true => exact hnull
  | false => exact .line h

/-! ## State -/

theorem rowWords_declared {v : String} (h : StateName v) :
    rowWords [.declared v] = [.name v.toList] := by
  have hne : v.toList ≠ [] := by
    intro hnil
    have := h.hidden
    rw [hnil] at this
    cases this
  rw [← textWords_name h.one hne, rowWords, List.flatMap_singleton]
  rfl

/-- The word behind `value` is mentioned, and what it mentions itself. -/
theorem mentions_valueRow {t : Token} {w : Word} {out : List Mention} (ht : rowWords [t] = [w])
    (hw : ∀ before rest, mentionsAfter (.sign ':' :: before) (w :: rest) =
      out ++ mentionsAfter (w :: .sign ':' :: before) rest) :
    Mentions (.value w :: out) (rowWords [.code "value: ", t, .code ","]) := by
  intro before rest
  have hwords : rowWords [.code "value: ", t, .code ","] =
      [.name valueKey, .sign ':', w, .sign ','] := by
    rw [rowWords_around rfl, ht]
    rfl
  have hread : mentionsAfter before (.name valueKey :: .sign ':' :: w :: .sign ',' :: rest) =
      .value w :: mentionsAfter (.sign ':' :: .name valueKey :: before) (w :: .sign ',' :: rest) :=
    rfl
  rw [hwords]
  simp only [List.cons_append, List.nil_append]
  rw [hread, hw]
  rfl

theorem mentions_groupRow {t : Token} {w : Word} (ht : rowWords [t] = [w])
    (hw : w.isOrdinary = true) :
    Mentions [.group w] (rowWords [.code "groupValue: ", t, .code ","]) := by
  intro before rest
  have hwords : rowWords [.code "groupValue: ", t, .code ","] =
      [.name groupKey, .sign ':', w, .sign ','] := by
    rw [rowWords_around rfl, ht]
    rfl
  have hread : mentionsAfter before (.name groupKey :: .sign ':' :: w :: .sign ',' :: rest) =
      .group w ::
        mentionsAfter (.sign ':' :: .name groupKey :: before) ([w] ++ .sign ',' :: rest) :=
    rfl
  rw [hwords]
  simp only [List.cons_append, List.nil_append]
  rw [hread, Mentions.ordinary (List.forall_mem_singleton.mpr hw)]
  rfl

/-- A value, or the state variable in its place. -/
theorem mentions_shownRow {state : Option String} (hstate : ∀ v ∈ state, StateName v) {t : Token}
    {w : Word} (ht : rowWords [t] = [w]) (hw : w.isOrdinary = true) :
    Mentions (shownMentions state w)
      (rowWords [.code "value: ", (state.map Token.declared).getD t, .code ","]) := by
  cases state with
  | none =>
      refine mentions_valueRow ht fun before rest => ?_
      exact Mentions.ordinary (List.forall_mem_singleton.mpr hw) (.sign ':' :: before) rest
  | some v =>
      have hv := hstate v rfl
      refine mentions_valueRow (rowWords_declared hv) fun before rest => ?_
      have hset : (Word.sign ':' :: before).take 5 ≠ setKey := by
        rw [List.take_succ_cons]
        nofun
      rw [mentionsAfter, Mentions.mentionOf?_private hv.hidden, if_neg fun h => hset h.1,
        String.ofList_toList]
      rfl

theorem mentions_setState {parameter : String} {cs : List Char} {v : String} (hv : StateName v)
    (hparameter : OrdinaryRow [.code ("onChanged: (" ++ parameter ++ ") " ++ "\x7b")])
    (hvalue : isUsual (cs ++ [';']) = true) :
    Mentions [.sets v] (setState parameter v (String.ofList cs)).words := by
  have hrow : rowWords [.declared v, .code (" = " ++ String.ofList cs ++ ";")] =
      .name v.toList :: .sign '=' :: textWords (cs ++ [';']) := by
    have htokens : [Token.declared v, .code (" = " ++ String.ofList cs ++ ";")].flatMap
        Token.spaced =
        (Token.declared v).spaced ++ ([' ', '=', ' '] ++ (cs ++ [';'])).map spacedChar := by
      simp [Token.spaced, Token.text]
    have hname := rowWords_declared hv
    rw [rowWords, List.flatMap_singleton] at hname
    rw [rowWords, htokens, wordsAfter_text _ rfl, hname]
    rfl
  have hopen : rowWords [.code "setState(() \x7b"] = setKey.reverse := @rowWords_code _
  have hclose : OrdinaryRow [.code "\x7d);"] := @OrdinaryRow.code _ rfl
  have hrest : ∀ w ∈ textWords (cs ++ [';']) ++ rowWords [.code "\x7d);"],
      w.isOrdinary = true :=
    List.forall_mem_append.mpr ⟨List.all_eq_true.mp hvalue, hclose⟩
  have htail : OrdinaryRow [.code ("\x7d" ++ ",")] := .opening rfl
  refine .block hparameter (.only ?_) htail
  have hset := Mentions.setting hv.hidden hrest
  rw [String.ofList_toList] at hset
  rw [words_block, List.flatMap_singleton, words_line, hrow, hopen]
  exact hset

/-! ## Buttons -/

theorem ordinary_pressed (target : Option String) : Ordinary (pressed target) := by
  cases target with
  | none => exact .row rfl
  | some target =>
      have hpush : Ordinary (.line
          [.code "Navigator.of(context).pushNamed(", .literal ("/" ++ target), .code ");"]) :=
        .line (.around rfl (.literal _))
      exact .braces rfl hpush rfl

theorem ordinary_buttonLabel (s : String) : Ordinary (buttonLabel s) :=
  .call rfl ⟨.textRow rfl, .row rfl⟩

theorem ordinary_buttonShape (rounded : Bool) : Ordinary (buttonShape rounded) := by
  have hround : Ordinary (row "shape: const StadiumBorder(),") := .row rfl
  have hstraight : Ordinary
      (row "shape: RoundedRectangleBorder(borderRadius: BorderRadius.circular(8.0)),") := .row rfl
  cases rounded with
  | true => exact hround
  | false => exact hstraight

theorem ordinary_filledButton (b : Content.Button) (background foreground : Color)
    {padding : Layout} (hpadding : Ordinary padding) :
    Ordinary (filledButton b background foreground padding) := by
  refine .call rfl ⟨.attach rfl (ordinary_pressed _), .argument rfl ?_, ?_⟩
  · exact ⟨.colorRow rfl, .colorRow rfl, ordinary_buttonShape _, hpadding, .row rfl⟩
  · exact .attach rfl (ordinary_buttonLabel _)

theorem ordinary_button (b : Content.Button) : Ensures Ordinary (button b) := by
  refine (ordinary_paddingRow b.padding).map fun padding hpadding => ?_
  cases b.look with
  | filled => exact ordinary_filledButton b _ _ hpadding
  | secondary => exact ordinary_filledButton b _ _ hpadding
  | outlined =>
      refine .call rfl ⟨.attach rfl (ordinary_pressed _), .argument rfl ?_, ?_⟩
      · exact ⟨.colorRow rfl, .colorRow rfl, ordinary_buttonShape _, hpadding⟩
      · exact .attach rfl (ordinary_buttonLabel _)

/-! ## Controls -/

/-- What a control does on a change. -/
theorem mentions_changed {state : Option String} (hstate : ∀ v ∈ state, StateName v)
    (disabled : Bool) {parameter : String} {cs : List Char}
    (hset : OrdinaryRow [.code ("onChanged: (" ++ parameter ++ ") " ++ "\x7b")])
    (hnone : OrdinaryRow [.code ("onChanged: (" ++ parameter ++ ") \x7b\x7d,")])
    (hvalue : isUsual (cs ++ [';']) = true) :
    Mentions (state.toList.map .sets)
      (match state with
        | some v => setState parameter v (String.ofList cs)
        | none => noState disabled parameter).words := by
  cases state with
  | none => exact .of_ordinary (ordinary_noState disabled hnone)
  | some v => exact mentions_setState (hstate v rfl) hset hvalue

theorem mentions_control {state : Option String} (hstate : ∀ v ∈ state, StateName v)
    (c : Control) : Mentions (controlMentions state c) (control state c).words := by
  cases c with
  | toggle on disabled active inactive =>
      have hshown := mentions_shownRow hstate (rowWords_truth on) (isOrdinary_truthWord on)
      rw [← words_line] at hshown
      refine .call rfl (.cons hshown ?_)
      refine .later (.colorRow rfl) (.later (.colorRow rfl) (.only ?_))
      exact mentions_changed hstate disabled (.four rfl) (.three rfl) rfl
  | checkbox on disabled active =>
      have hshown := mentions_shownRow hstate (rowWords_truth on) (isOrdinary_truthWord on)
      rw [← words_line] at hshown
      refine .call rfl (.cons hshown (.later (.colorRow rfl) (.only ?_)))
      exact mentions_changed hstate disabled (.four rfl) (.three rfl) rfl
  | radio on disabled active group =>
      have hvalue : Mentions [.value (.literal group)]
          (rowWords [.code "value: ", .literal group, .code ","]) :=
        mentions_valueRow (rowWords_literal group) fun _ _ => rfl
      have hgroup : Mentions [.group (if on then .literal group else nullWord)]
          (rowWords [.code "groupValue: ", if on then .literal group else .code "null",
            .code ","]) := by
        cases on with
        | true => exact @mentions_groupRow (.literal group) (.literal group) rfl rfl
        | false => exact @mentions_groupRow (.code "null") nullWord rfl rfl
      rw [← words_line] at hvalue hgroup
      refine .call rfl (.cons hvalue (.first hgroup ⟨.colorRow rfl, ?_⟩))
      exact ordinary_noState disabled (.three rfl)

theorem mentions_choosable {c : Content.Choosable} {index : Int}
    (hstate : ∀ v ∈ stateOf? c index, StateName v) :
    Mentions (controlMentions (stateOf? c index) c.control) (choosable c index).words := by
  have hcontrol := mentions_control hstate c.control
  rw [choosable, withLabel]
  split
  · exact hcontrol
  · refine .call rfl (.later (.row rfl) (.only (.brackets rfl (.first (.item hcontrol) ?_))))
    exact ⟨.item (.line (.three rfl)), .item (.textRow rfl)⟩

theorem mentions_labeled (l : Content.Labeled) :
    Mentions (controlMentions none l.control) (labeled l).words := by
  have hcontrol := @mentions_control none nofun l.control
  have hlabel : Ordinary (call "Text"
      [textRow "" l.label ",", colorRow "style: TextStyle(color: " l.labelColor "),"]) :=
    .call rfl ⟨.textRow rfl, .colorRow rfl⟩
  have hgap : Ordinary (gapAcross "12.0") := .line (.three rfl)
  refine .call rfl (.only ?_)
  cases hfirst : l.labelFirst with
  | true => exact .brackets rfl (.later hlabel.item (.later hgap.item (.only hcontrol.item)))
  | false => exact .brackets rfl (.first hcontrol.item ⟨hgap.item, hlabel.item⟩)

/-! ## Inputs -/

theorem ordinary_iconRow {cs ds : List Char} {name : String} (hname : IconName name)
    (h : (isUsual cs && isUsual ds && cuts cs ds) = true) :
    Ordinary (.line [.code (String.ofList cs), .icon name, .code (String.ofList ds)]) :=
  .line (.around h (.icon hname))

/-- An icon in front of a comma. -/
theorem ordinary_iconItem {name : String} (hname : IconName name) :
    Ordinary (.line [.icon name, .code ","]) := .line (.comma (.icon hname))

theorem ordinary_textField {f : Content.TextField} (h : ∀ name ∈ f.icon, IconName name) :
    Ordinary (textField f) := by
  refine .call rfl (.argument rfl ?_)
  simp only [List.forall_append]
  refine ⟨⟨⟨⟨forall_ite trivial ?_, ?_⟩, ?_⟩, ?_⟩, ?_⟩
  · exact .textRow rfl
  · exact .textRow rfl
  · cases hicon : f.icon with
    | none => trivial
    | some name => exact ordinary_iconRow (h name hicon) rfl
  · exact forall_option (fun _ => .textRow rfl) _
  · exact .attach rfl (ordinary_inputBorder none)

theorem rowWords_selection (d : Content.Dropdown) : rowWords [selection d] = [selectionWord d] := by
  rw [selection, selectionWord]
  cases d.selected?.bind nonEmpty? with
  | none => rfl
  | some value => rfl

theorem isOrdinary_selectionWord (d : Content.Dropdown) : (selectionWord d).isOrdinary = true := by
  rw [selectionWord]
  split <;> rfl

theorem mentions_menuItem (c : Choice) :
    Mentions [.value (.literal c.value)] (menuItem c).words := by
  have hvalue : Mentions [.value (.literal c.value)]
      (rowWords [.code "value: ", .literal c.value, .code ","]) :=
    mentions_valueRow (rowWords_literal c.value) fun _ _ => rfl
  rw [← words_line] at hvalue
  have hlabel : Ordinary (textRow "child: Text(" c.label "),") := .textRow rfl
  exact .argument rfl (.first hvalue hlabel)

theorem mentions_dropdown {d : Content.Dropdown} {index : Int}
    (hstate : ∀ v ∈ dropdownState? d index, StateName v) :
    Mentions (dropdownMentions (dropdownState? d index) d) (dropdown d index).words := by
  have hshown := mentions_shownRow hstate (rowWords_selection d) (isOrdinary_selectionWord d)
  rw [← words_line] at hshown
  have hchanged : Mentions
      (if d.disabled then [] else (dropdownState? d index).toList.map .sets)
      (if d.disabled then noState true "String? newValue"
        else
          match dropdownState? d index with
          | some v => setState "String? newValue" v "newValue"
          | none => noState false "String? newValue").words := by
    split
    · exact .of_ordinary (ordinary_noState true (.three rfl))
    · exact mentions_changed hstate false (.four rfl) (.three rfl) rfl
  refine .call rfl (.later (.argument rfl ?_) (.later (.row rfl) (.cons hshown (.cons ?_ ?_))))
  · simp only [List.forall_append]
    refine ⟨⟨forall_ite trivial (.textRow rfl), forall_ite trivial (.textRow rfl)⟩, ?_⟩
    exact ⟨.row rfl, .colorRow rfl, .attach rfl (ordinary_inputBorder _)⟩
  · exact .brackets rfl (.map mentions_menuItem)
  · exact .only hchanged

theorem ordinary_inputField (i : Content.Input) : Ordinary (inputField i) := by
  refine .call rfl ?_
  simp only [List.forall_append]
  refine ⟨⟨⟨⟨forall_ite trivial ?_, forall_ite ?_ trivial⟩, forall_ite ?_ trivial⟩, ?_⟩, ?_⟩
  · exact .textRow rfl
  · exact .row rfl
  · exact .row rfl
  · rw [keyboard?]
    repeat' split
    all_goals first | exact .line (.three rfl) | trivial
  · exact .argument rfl ⟨.textRow rfl, .attach rfl (ordinary_inputBorder _)⟩

theorem ordinary_input (i : Content.Input) : Ordinary (input i) := by
  refine .call rfl ⟨.row rfl, .children ⟨.call rfl ?_, ?_⟩⟩
  · exact ⟨.textRow rfl, .argument rfl ⟨.row rfl, .colorRow rfl⟩⟩
  · exact ⟨.line (.three rfl), ordinary_inputField i⟩

/-! ## Chats -/

theorem ordinary_composer (c : Content.Composer) : Ordinary (composer c) := by
  refine .call rfl (.children ⟨.call rfl ?_, ?_⟩)
  · refine .argument rfl (.argument rfl ⟨.textRow rfl, ?_⟩)
    exact ⟨.attach rfl (ordinary_inputBorder none), .row rfl, .row rfl⟩
  · refine ⟨.line (.three rfl), .call rfl ⟨.row rfl, ?_⟩⟩
    exact ⟨.argument rfl ⟨.colorRow rfl, .colorRow rfl⟩, .textRow rfl⟩

theorem ordinary_bubble (m : Content.Message) : Ordinary (bubble m) := by
  refine .call rfl ⟨.row rfl, .argument rfl ?_, .argument rfl ?_⟩
  · exact ⟨.colorRow rfl, .row rfl⟩
  · exact ⟨.textRow rfl, .colorRow rfl⟩

/-- An argument with the side of a message. -/
theorem ordinary_sideRow (m : Content.Message) {key : String}
    (hstart : OrdinaryRow [.code (key ++ "start" ++ ",")])
    (hend : OrdinaryRow [.code (key ++ "end" ++ ",")]) :
    Ordinary (row (key ++ side m ++ ",")) := by
  rw [side]
  split
  · exact .line hend
  · exact .line hstart

theorem ordinary_messageColumn (m : Content.Message) : Ordinary (messageColumn m) := by
  refine .call rfl ⟨.row rfl, ordinary_sideRow m (.three rfl) (.three rfl), .children ?_⟩
  rw [List.forall_cons]
  exact ⟨ordinary_bubble m, forall_ite (.textRow rfl) trivial⟩

theorem ordinary_message (m : Content.Message) : Ordinary (message m) := by
  have hcolumn := ordinary_messageColumn m
  rw [message]
  split
  · have havatar : Ordinary
        (colorRow "CircleAvatar(radius: 16, backgroundColor: " m.avatarColor ")") := .colorRow rfl
    have hgap : Ordinary (gapAcross "8.0") := .line (.three rfl)
    have hflexible : Ordinary (call "Flexible" [attach "child" (messageColumn m)]) :=
      .call rfl (.attach rfl hcolumn)
    refine .call rfl ⟨ordinary_sideRow m (.three rfl) (.three rfl), .row rfl, ?_⟩
    refine .children (forall_ite ?_ ?_)
    · exact ⟨hflexible, hgap, havatar⟩
    · exact ⟨havatar, hgap, hflexible⟩
  · refine .call rfl ⟨?_, .attach rfl hcolumn⟩
    split
    · exact .row rfl
    · exact .row rfl

/-! ## Surfaces -/

theorem ordinary_image (height : Number) : Ensures (List.Forall Ordinary) (image height) := by
  have hheight : Ensures Ordinary (numberRow "height: " height ",") := ordinary_numberRow rfl
  have hicon : IconName "image" := rfl
  have hgap : Ordinary (gapDown "12.0") := .line (.three rfl)
  refine hheight.map fun row hrow => ⟨.call rfl ⟨hrow, .row rfl, ?_, ?_⟩, hgap⟩
  · exact .argument rfl ⟨.row rfl, .row rfl⟩
  · exact .argument rfl ⟨ordinary_iconItem hicon, .row rfl, .row rfl⟩

theorem ordinary_cardTexts (c : Content.Card) : (cardTexts c).Forall Ordinary := by
  simp only [cardTexts, List.forall_append]
  have hsmall : Ordinary (gapDown "4.0") := .line (.three rfl)
  have hgap : Ordinary (gapDown "8.0") := .line (.three rfl)
  refine ⟨⟨?_, forall_ite trivial ⟨hsmall, ?_⟩⟩, hgap, ?_⟩
  · exact .call rfl ⟨.textRow rfl, .row rfl⟩
  · exact .call rfl ⟨.textRow rfl, .row rfl⟩
  · exact .call rfl ⟨.textRow rfl, .row rfl⟩

theorem ordinary_card (c : Content.Card) : Ensures Ordinary (card c) := by
  have helevation : Ensures Ordinary (numberRow "elevation: " c.elevation ",") :=
    ordinary_numberRow rfl
  have hradius : Ensures Ordinary
      (numberRow "borderRadius: BorderRadius.circular(" c.borderRadius "),") :=
    ordinary_numberRow rfl
  rw [card]
  cases c.imageHeight
  -- The rest of the card is the same with an image and without one.
  all_goals refine .bind (P := List.Forall Ordinary) ?_ fun image himage => ?_
  case none.refine_1 => exact trivial
  case some.refine_1 height => exact ordinary_image height
  all_goals
    refine helevation.bind fun elevation helevation => hradius.bind fun radius hradius => ?_
    refine (ordinary_paddingRow c.padding).bind fun padding hpadding => ?_
    refine Ordinary.call rfl ⟨helevation, .colorRow rfl, .row rfl, ?_, ?_⟩
    · exact .argument rfl hradius
    · refine .argument rfl ⟨hpadding, .argument rfl ⟨.row rfl, .children ?_⟩⟩
      exact List.forall_append.mpr ⟨himage, ordinary_cardTexts c⟩

theorem ordinary_tile (l : Content.Listing) {t : Tile} (h : IconName t.icon) :
    Ensures Ordinary (tile l t) := by
  have hextent : Ensures Ordinary (tileExtent l) := by
    rw [tileExtent]
    split
    · exact Ordinary.row rfl
    · exact ordinary_numberRow rfl
  have harrow : IconName "arrow_forward_ios" := rfl
  refine hextent.map fun extent hextent => ?_
  refine .call rfl ⟨hextent, ?_, .argument rfl ?_, .attach rfl (.call rfl ?_)⟩
  · split
    · exact .row rfl
    · exact .row rfl
  · exact ⟨.row rfl, .row rfl, .row rfl⟩
  · refine List.forall_append.mpr ⟨⟨ordinary_iconRow h rfl, .argument rfl ?_, ?_⟩, ?_⟩
    · exact ⟨.textRow rfl, .row rfl⟩
    · exact .textRow rfl
    · exact forall_ite trivial (ordinary_iconRow harrow rfl)

theorem ordinary_listing {l : Content.Listing} (h : ∀ t ∈ l.tiles, IconName t.icon) :
    Ensures Ordinary (listing l) := by
  refine (Ensures.mapM fun t ht => ordinary_tile l (h t ht)).map fun tiles htiles => ?_
  refine .call rfl ?_
  simp only [List.forall_append]
  refine ⟨⟨forall_ite ?_ trivial, forall_ite trivial ?_⟩, ?_⟩
  · exact .row rfl
  · exact .row rfl
  · exact .children (List.forall_iff_forall_mem.mpr htiles)

theorem ordinary_glyph {g : Content.Glyph} (h : IconName g.icon) : Ensures Ordinary (glyph g) := by
  have hsize : Ensures Ordinary (numberRow "size: " g.size ",") := ordinary_numberRow rfl
  exact hsize.map fun size hsize => .call rfl ⟨ordinary_iconItem h, .colorRow rfl, hsize⟩

theorem ordinary_container (c : Content.Container) : Ensures Ordinary (container c) := by
  have hmargin : Ensures Ordinary (numberRow "margin: EdgeInsets.all(" c.margin "),") :=
    ordinary_numberRow rfl
  have hradius : Ensures Ordinary
      (numberRow "borderRadius: BorderRadius.circular(" c.borderRadius "),") :=
    ordinary_numberRow rfl
  refine (ordinary_paddingRow c.padding).bind fun padding hpadding => ?_
  refine hmargin.bind fun margin hmargin => hradius.bind fun radius hradius => ?_
  exact Ordinary.call rfl ⟨hpadding, hmargin, .argument rfl ⟨.colorRow rfl, hradius⟩⟩

/-! ## Rows, columns and stacks -/

theorem ordinary_flex (f : Content.Flex) : Ensures Ordinary (flex f) := by
  have hmain : Ordinary (row ("mainAxisAlignment: " ++ mainAxis f.main ++ ",")) := by
    cases f.main <;> exact .line (.nested rfl)
  have hcross : Ordinary (row ("crossAxisAlignment: " ++ crossAxis f.cross ++ ",")) := by
    cases f.cross <;> exact .line (.nested rfl)
  refine (ordinary_paddingRow f.padding).map fun padding hpadding => ?_
  cases f.direction with
  | row =>
      have hgap : Ordinary (gapAcross "8.0") := .line (.three rfl)
      have hblock : Ordinary (block "30.0" "30.0" "300") :=
        .call rfl ⟨.line (.three rfl), .line (.three rfl), .line (.three rfl)⟩
      refine .call rfl ⟨hpadding, .argument rfl ⟨hmain, hcross, .children ?_⟩⟩
      exact ⟨hblock, hgap, hblock, hgap, hblock⟩
  | column =>
      have hgap : Ordinary (gapDown "8.0") := .line (.three rfl)
      have hblock : Ordinary (block "100.0" "30.0" "300") :=
        .call rfl ⟨.line (.three rfl), .line (.three rfl), .line (.three rfl)⟩
      refine .call rfl ⟨hpadding, .argument rfl ⟨hmain, hcross, .children ?_⟩⟩
      exact ⟨hblock, hgap, hblock, hgap, hblock⟩

theorem ordinary_stack (s : Content.Stack) : Ensures Ordinary (stack s) := by
  have hanchor : Ordinary (row ("alignment: Alignment." ++ s.anchor.name ++ ",")) := by
    cases s.anchor <;> exact .line (.three rfl)
  refine (ordinary_paddingRow s.padding).map fun padding hpadding => ?_
  refine .call rfl ⟨hpadding, .argument rfl ⟨hanchor, .children ⟨.call rfl ?_, .call rfl ?_⟩⟩⟩
  · exact ⟨.line (.three rfl), .line (.three rfl), .line (.three rfl)⟩
  · exact ⟨.line (.three rfl), .line (.three rfl), .line (.three rfl)⟩

/-! ## Tables -/

theorem ordinary_dataColumn (sortable : Bool) (c : Column) : Ordinary (dataColumn sortable c) := by
  cases sortable with
  | true => exact .argument rfl ⟨.textRow rfl, .row rfl⟩
  | false => exact .textRow rfl

theorem ordinary_dataRow (g : Content.Grid) (position : Nat) (cells : ScreenDesign.Row) :
    Ordinary (dataRow g position cells) := by
  refine .argument rfl (List.forall_append.mpr ⟨?_, .brackets rfl ?_⟩)
  · exact forall_option (fun _ => .colorRow rfl) _
  · exact List.forall_iff_forall_mem.mpr (List.forall_mem_map.mpr fun c _ => .textRow rfl)

theorem ordinary_dataTable (g : Content.Grid) : Ordinary (dataTable g) := by
  refine .call rfl ?_
  simp only [List.forall_append]
  refine ⟨⟨?_, forall_ite (.colorRow rfl) trivial⟩, .brackets rfl ?_, .brackets rfl ?_⟩
  · split
    · exact .colorRow rfl
    · exact .row rfl
  · exact List.forall_iff_forall_mem.mpr
      (List.forall_mem_map.mpr fun c _ => ordinary_dataColumn _ c)
  · refine List.forall_iff_forall_mem.mpr fun l hl => ?_
    obtain ⟨i, hi, rfl⟩ := List.mem_mapIdx.mp hl
    exact ordinary_dataRow g i _

theorem ordinary_grid (g : Content.Grid) : Ordinary (grid g) := by
  have htitle : Ordinary (gridTitle g.title) := by
    refine .call rfl ⟨.row rfl, .argument rfl ⟨.textRow rfl, .argument rfl ?_⟩⟩
    exact ⟨.row rfl, .row rfl⟩
  refine .call rfl ⟨.row rfl, .children (List.forall_append.mpr ⟨forall_ite trivial htitle, ?_⟩)⟩
  exact .call rfl (.argument rfl ⟨.row rfl, .attach rfl (ordinary_dataTable g)⟩)

/-! ## Everything -/

/-- The state variable of a content with an index, if it has one. -/
def stateName? (index : Int) : Content → Option String
  | .choosable c => stateOf? c index
  | .dropdown d => dropdownState? d index
  | _ => none

theorem Ensures.imp {α : Type} {P Q : α → Prop} {x : Except Failure α} (hx : Ensures P x)
    (h : ∀ a, P a → Q a) : Ensures Q x := by
  cases x with
  | error e => trivial
  | ok a => exact h a hx

/-- What the widget of a content mentions. -/
theorem mentions_widget {index : Int} {c : Content} (hicons : ∀ name ∈ iconNames c, IconName name)
    (hstate : ∀ v ∈ stateName? index c, StateName v) :
    Ensures (fun l => Mentions (contentMentions index c) l.words) (widget index c) := by
  have hordinary {x : Except Failure Layout} (h : Ensures Ordinary x) :
      Ensures (fun l => Mentions [] l.words) x := h.imp fun _ => .of_ordinary
  cases c with
  | button b => exact hordinary (ordinary_button b)
  | textField f =>
      have hicon : ∀ name ∈ f.icon, IconName name :=
        fun name hname => hicons name (Option.mem_toList.mpr hname)
      exact .of_ordinary (ordinary_textField hicon)
  | card c => exact hordinary (ordinary_card c)
  | list l =>
      have htiles : ∀ t ∈ l.tiles, IconName t.icon :=
        fun t ht => hicons t.icon (List.mem_map_of_mem ht)
      exact hordinary (ordinary_listing htiles)
  | icon g => exact hordinary (ordinary_glyph (hicons g.icon List.mem_cons_self))
  | container c => exact hordinary (ordinary_container c)
  | flex f => exact hordinary (ordinary_flex f)
  | stack s => exact hordinary (ordinary_stack s)
  | choosable c => exact mentions_choosable hstate
  | control c => exact @mentions_control none nofun c
  | labeled l => exact mentions_labeled l
  | composer c => exact .of_ordinary (ordinary_composer c)
  | message m => exact .of_ordinary (ordinary_message m)
  | dropdown d => exact mentions_dropdown hstate
  | input i => exact .of_ordinary (ordinary_input i)
  | grid g => exact .of_ordinary (ordinary_grid g)

end ScreenDesign.Dart
