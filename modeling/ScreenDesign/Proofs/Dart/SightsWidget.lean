import ScreenDesign.Proofs.Dart.Sights
import ScreenDesign.Proofs.Dart.Tokens

/-!
# Sights of widgets

The widget of a content shows the sights of the content, in their order
(`shows_widget`).  The name of an icon is read up to a line break, which can only
stand at its end.

Layouts are built from still source text, tokens and other layouts.  Each way of
building has a lemma, and the checks of source text close by evaluation.
-/

namespace ScreenDesign.Dart

open Layout

/-! ## Layouts -/

/-- A text that is still source text. -/
def StillText (s : String) : Prop := isStill s.toList = true

theorem stillText_ofList {cs : List Char} (h : isStill cs = true) :
    StillText (String.ofList cs) := by
  rwa [StillText, String.toList_ofList]

theorem StillText.append {s t : String} (hs : StillText s) (ht : StillText t) :
    StillText (s ++ t) := by
  rw [StillText, String.toList_append]
  exact isStill_append hs ht

/-- Still text between still source text. -/
theorem StillText.between {s : String} {cs ds : List Char}
    (h : (isStill cs && isStill ds) = true) (hs : StillText s) :
    StillText (String.ofList cs ++ s ++ String.ofList ds) := by
  rw [Bool.and_eq_true] at h
  exact ((stillText_ofList h.1).append hs).append (stillText_ofList h.2)

/-- A layout in which nothing is shown. -/
def Still (l : Layout) : Prop := Shows [] l.tokens

/-- Layouts in which nothing is shown. -/
def EachStill : List Layout → Prop
  | [] => True
  | l :: ls => Still l ∧ EachStill ls

namespace Shows

variable {out out' : List Sight} {l : Layout} {ls body : List Layout} {cs ds : List Char}

/-! ### Lists -/

theorem cons (hl : Shows out l.tokens) (hls : Shows out' (ls.flatMap tokens)) :
    Shows (out ++ out') ((l :: ls).flatMap tokens) := hl.append hls

theorem all (h : EachStill ls) : Shows [] (ls.flatMap tokens) := by
  induction ls with
  | nil => exact nil
  | cons l ls ih => exact cons h.1 (ih h.2)

/-- Something is shown in the first layout only. -/
theorem first (hl : Shows out l.tokens) (hls : EachStill ls) :
    Shows out ((l :: ls).flatMap tokens) := hl.still_right (all hls)

/-- Nothing is shown in the first layout. -/
theorem later (hl : Still l) (hls : Shows out (ls.flatMap tokens)) :
    Shows out ((l :: ls).flatMap tokens) := hl.still_left hls

theorem flatMap_append (hls : Shows out (ls.flatMap tokens))
    (hbody : Shows out' (body.flatMap tokens)) : Shows (out ++ out') ((ls ++ body).flatMap tokens) := by
  rw [List.flatMap_append]
  exact hls.append hbody

/-- Something is shown only between still layouts. -/
theorem among {after : List Layout} (hbefore : EachStill ls)
    (hbody : Shows out (body.flatMap tokens)) (hafter : EachStill after) :
    Shows out ((ls ++ body ++ after).flatMap tokens) := by
  rw [List.flatMap_append, List.flatMap_append]
  exact ((all hbefore).still_left hbody).still_right (all hafter)

theorem map {α : Type} {f : α → Layout} {g : α → List Sight} {as : List α}
    (h : ∀ a ∈ as, Shows (g a) (f a).tokens) :
    Shows (as.flatMap g) ((as.map f).flatMap tokens) := by
  induction as with
  | nil => exact nil
  | cons a as ih =>
      obtain ⟨ha, has⟩ := List.forall_mem_cons.mp h
      exact cons ha (ih has)

theorem mapIdx {α : Type} {f : Nat → α → Layout} {g : α → List Sight} {as : List α}
    (h : ∀ i a, Shows (g a) (f i a).tokens) :
    Shows (as.flatMap g) ((as.mapIdx f).flatMap tokens) := by
  induction as generalizing f with
  | nil => exact nil
  | cons a as ih =>
      rw [List.mapIdx_cons]
      exact cons (h 0 a) (ih fun i => h (i + 1))

/-! ### Blocks -/

theorem block (h : (isStill cs && isStill ds) = true) (hbody : Shows out (body.flatMap tokens)) :
    Shows out (Layout.block [.code (String.ofList cs)] body [.code (String.ofList ds)]).tokens := by
  rw [Bool.and_eq_true] at h
  rw [tokens_block]
  exact (code h.1).still_left (hbody.still_right (code h.2))

theorem call (h : isStill (cs ++ ['(']) = true) (hbody : Shows out (body.flatMap tokens)) :
    Shows out (Layout.call (String.ofList cs) body).tokens := by
  have := @block out body (cs ++ ['(']) [')'] (by rw [h]; rfl) hbody
  rwa [String.ofList_append] at this

theorem argument (h : isStill (cs ++ ['(']) = true) (hbody : Shows out (body.flatMap tokens)) :
    Shows out (Layout.argument (String.ofList cs) body).tokens := by
  have := @block out body (cs ++ ['(']) [')', ','] (by rw [h]; rfl) hbody
  rwa [String.ofList_append] at this

theorem brackets (h : isStill (cs ++ [':', ' ', '[']) = true)
    (hbody : Shows out (body.flatMap tokens)) :
    Shows out (Layout.brackets (String.ofList cs) body).tokens := by
  have := @block out body (cs ++ [':', ' ', '[']) [']', ','] (by rw [h]; rfl) hbody
  rwa [String.ofList_append] at this

theorem braces (h : (isStill (cs ++ ['\x7b']) && isStill ('\x7d' :: ds)) = true)
    (hbody : Shows out (body.flatMap tokens)) :
    Shows out (Layout.braces (String.ofList cs) body (String.ofList ds)).tokens := by
  have hclosing : "\x7d" ++ String.ofList ds = String.ofList ('\x7d' :: ds) :=
    String.ofList_append.symm
  have := block h hbody
  rwa [String.ofList_append, ← hclosing] at this

theorem attach (h : isStill (cs ++ [':', ' ']) = true) (hl : Shows out l.tokens) :
    Shows out (Layout.attach (String.ofList cs) l).tokens := by
  have hcomma : Shows [] [.code ","] := @code [','] rfl
  have := (code h).still_left (hl.still_right hcomma)
  rwa [Layout.attach, tokens_wrap, ← String.ofList_append]

/-- A layout in a list of children. -/
theorem item (hl : Shows out l.tokens) : Shows out (l.wrap [] [.code ","]).tokens := by
  have hcomma : Shows [] [.code ","] := @code [','] rfl
  rw [tokens_wrap]
  exact hl.still_right hcomma

end Shows

/-! ## Still layouts -/

namespace Still

variable {ls body : List Layout} {cs ds : List Char}

theorem row (h : isStill cs = true) : Still (Layout.row (String.ofList cs)) := by
  rw [Still, Layout.row, tokens_line]
  exact .code h

/-- A token between still source text. -/
theorem around {t : Token} (h : (isStill cs && isStill ds) = true) (ht : Shows [] [t]) :
    Still (.line [.code (String.ofList cs), t, .code (String.ofList ds)]) := by
  rw [Bool.and_eq_true] at h
  rw [Still, tokens_line]
  exact (Shows.code h.1).still_left (ht.still_left (.code h.2))

theorem textRow {s : String} (h : (isStill cs && isStill ds) = true) :
    Still (Dart.textRow (String.ofList cs) s (String.ofList ds)) := around h (.literal s)

theorem colorRow {c : Color} (h : (isStill cs && isStill ds) = true) :
    Still (Dart.colorRow (String.ofList cs) c (String.ofList ds)) := around h (.color c)

end Still

theorem EachStill.items {ls : List Layout} (h : EachStill ls) :
    EachStill (ls.map (wrap [] [.code ","])) := by
  induction ls with
  | nil => trivial
  | cons l ls ih => exact ⟨.item h.1, ih h.2⟩

theorem Still.children {ls : List Layout} (h : EachStill ls) : Still (Layout.children ls) :=
  Shows.brackets rfl (.all h.items)

theorem EachStill.append {ls body : List Layout} (hls : EachStill ls) (hbody : EachStill body) :
    EachStill (ls ++ body) := by
  induction ls with
  | nil => exact hbody
  | cons l ls ih => exact ⟨hls.1, ih hls.2⟩

theorem EachStill.ite {ls body : List Layout} {c : Prop} [Decidable c] (hls : EachStill ls)
    (hbody : EachStill body) : EachStill (if c then ls else body) := by
  split
  · exact hls
  · exact hbody

theorem EachStill.option {α : Type} {f : α → Layout} (h : ∀ a, Still (f a)) (x : Option α) :
    EachStill (x.map f).toList := by
  cases x with
  | none => trivial
  | some a => exact ⟨h a, trivial⟩

/-! ## Pieces -/

theorem still_numberRow {cs ds : List Char} {n : Number}
    (h : (isStill cs && isStill ds) = true) :
    Ensures Still (numberRow (String.ofList cs) n (String.ofList ds)) := by
  rw [numberRow]
  cases double n with
  | error e => trivial
  | ok x => exact .around h (.number x)

theorem still_paddingRow (n : Number) : Ensures Still (paddingRow n) := still_numberRow rfl

theorem still_inputBorder (c : Option Color) : Still (inputBorder c) :=
  .call rfl (.all ⟨.row rfl, .option (fun _ => .colorRow rfl) c⟩)

/-! ## Buttons -/

theorem shows_pressed (target : Option String) :
    Shows (target.map fun id => .route ("/" ++ id)).toList (pressed target).tokens := by
  cases target with
  | none => exact Still.row rfl
  | some id =>
      have hpush : Shows [.route ("/" ++ id)]
          [.code "Navigator.of(context).pushNamed(", .literal ("/" ++ id), .code ");"] :=
        fun _ => rfl
      exact .braces rfl (.first (by rwa [tokens_line]) trivial)

theorem still_buttonLabel (s : String) : Still (buttonLabel s) :=
  .call rfl (.all ⟨.textRow rfl, .row rfl, trivial⟩)

theorem still_buttonShape (rounded : Bool) : Still (buttonShape rounded) := by
  cases rounded with
  | true => exact .row rfl
  | false => exact .row rfl

theorem shows_filledButton (b : Content.Button) (background foreground : Color)
    {padding : Layout} (hpadding : Still padding) :
    Shows (Content.sights (.button b)) (filledButton b background foreground padding).tokens := by
  refine .call rfl (.first (.attach rfl (shows_pressed b.target)) ⟨.argument rfl (.all ?_), ?_⟩)
  · exact ⟨.colorRow rfl, .colorRow rfl, still_buttonShape _, hpadding, .row rfl, trivial⟩
  · exact ⟨.attach rfl (still_buttonLabel _), trivial⟩

theorem shows_button (b : Content.Button) :
    Ensures (fun l => Shows (Content.sights (.button b)) l.tokens) (button b) := by
  refine (still_paddingRow b.padding).map fun padding hpadding => ?_
  cases b.look with
  | filled => exact shows_filledButton b _ _ hpadding
  | secondary => exact shows_filledButton b _ _ hpadding
  | outlined =>
      refine .call rfl (.first (.attach rfl (shows_pressed b.target)) ⟨.argument rfl (.all ?_), ?_⟩)
      · exact ⟨.colorRow rfl, .colorRow rfl, still_buttonShape _, hpadding, trivial⟩
      · exact ⟨.attach rfl (still_buttonLabel _), trivial⟩

/-! ## Controls -/

theorem still_truth (b : Bool) : Shows [] [truth b] := by
  cases b with
  | false => exact .code rfl
  | true => exact .code rfl

/-- The state variable that a control shows, if there is one, is still. -/
def StillState (state : Option String) : Prop := ∀ v ∈ state, StillText v

theorem stillState_none : StillState none := by
  intro v hv
  cases hv

theorem shows_declared {s : String} (h : StillText s) : Shows [] [.declared s] :=
  .of_isStill h rfl

/-- A name where there is one, and another token otherwise. -/
theorem shows_declaredOr {state : Option String} {t : Token} (hstate : StillState state)
    (ht : Shows [] [t]) : Shows [] [(state.map Token.declared).getD t] := by
  cases state with
  | none => exact ht
  | some v => exact shows_declared (hstate v rfl)

theorem still_row {s : String} (h : StillText s) : Still (row s) := by
  rw [Still, row, tokens_line]
  exact .of_isStill h rfl

theorem still_rowBetween {s : String} {cs ds : List Char} (h : (isStill cs && isStill ds) = true)
    (hs : StillText s) : Still (row (String.ofList cs ++ s ++ String.ofList ds)) :=
  still_row (StillText.between h hs)

theorem still_gapAcross {cs : List Char} (h : isStill cs = true) :
    Still (gapAcross (String.ofList cs)) := still_rowBetween rfl (stillText_ofList h)

theorem still_gapDown {cs : List Char} (h : isStill cs = true) :
    Still (gapDown (String.ofList cs)) := still_rowBetween rfl (stillText_ofList h)

theorem still_setState {ps vs : List Char} {name : String} (hps : isStill ps = true)
    (hvs : isStill vs = true) (hname : StillText name) :
    Still (setState (String.ofList ps) name (String.ofList vs)) := by
  have hassign : Shows [] [.declared name, .code (" = " ++ String.ofList vs ++ ";")] :=
    (shows_declared hname).still_left (.of_isStill (StillText.between rfl (stillText_ofList hvs)) rfl)
  have hhead : StillText ("onChanged: (" ++ String.ofList ps ++ ") ") :=
    StillText.between rfl (stillText_ofList hps)
  have hline : Still (.block [.code "setState(() \x7b"]
      [.line [.declared name, .code (" = " ++ String.ofList vs ++ ";")]] [.code "\x7d);"]) :=
    .block rfl (.all ⟨by rwa [Still, tokens_line], trivial⟩)
  rw [setState, ← String.ofList_toList (s := "onChanged: (" ++ String.ofList ps ++ ") ")]
  refine Shows.braces ?_ (.all ⟨hline, trivial⟩)
  rw [Bool.and_eq_true]
  exact ⟨isStill_append hhead rfl, rfl⟩

theorem still_noState {disabled : Bool} {ps : List Char} (h : isStill ps = true) :
    Still (noState disabled (String.ofList ps)) := by
  cases disabled with
  | true => exact .row rfl
  | false => exact still_rowBetween rfl (stillText_ofList h)

theorem still_control {state : Option String} (hstate : StillState state) (c : Control) :
    Still (control state c) := by
  cases c with
  | toggle on disabled active inactive =>
      refine .call rfl (.all ⟨.around rfl (shows_declaredOr hstate (still_truth on)), ?_⟩)
      refine ⟨.colorRow rfl, .colorRow rfl, ?_, trivial⟩
      cases state with
      | none => exact still_noState rfl
      | some v => exact still_setState rfl rfl (hstate v rfl)
  | checkbox on disabled active =>
      refine .call rfl (.all ⟨.around rfl (shows_declaredOr hstate (still_truth on)), ?_⟩)
      refine ⟨.colorRow rfl, ?_, trivial⟩
      cases state with
      | none => exact still_noState rfl
      | some v => exact still_setState rfl rfl (hstate v rfl)
  | radio on disabled active group =>
      refine .call rfl (.all ⟨.textRow rfl, .around rfl ?_, .colorRow rfl, ?_, trivial⟩)
      · cases on with
        | true => exact .literal group
        | false => exact .code rfl
      · exact still_noState rfl

theorem stillText_decimalText (n : Int) : StillText (decimalText n) := by
  have hrepr : ∀ n : Nat, StillText n.repr := by
    intro n
    rw [StillText, Nat.toList_repr]
    exact isStill_of_noInitial (isInitial_of_mem_toDigits n)
  rw [decimalText]
  split
  · exact .append (stillText_ofList rfl) (hrepr _)
  · exact hrepr _

theorem stillState_stateOf? (c : Content.Choosable) (index : Int) :
    StillState (stateOf? c index) := by
  intro v hv
  simp only [stateOf?] at hv
  split at hv
  · obtain ⟨stem, hstem, rfl⟩ := Option.map_eq_some_iff.mp hv
    refine .append ?_ (stillText_decimalText index)
    cases hcontrol : c.control with
    | toggle => rw [hcontrol] at hstem; cases hstem; exact stillText_ofList rfl
    | checkbox => rw [hcontrol] at hstem; cases hstem; exact stillText_ofList rfl
    | radio => rw [hcontrol] at hstem; cases hstem
  · cases hv

theorem still_choosable (c : Content.Choosable) (index : Int) : Still (choosable c index) := by
  have hcontrol := still_control (stillState_stateOf? c index) c.control
  rw [choosable, withLabel]
  split
  · exact hcontrol
  · refine .call rfl (.all ⟨.row rfl, .children ?_, trivial⟩)
    exact ⟨hcontrol, still_gapAcross rfl, .textRow rfl, trivial⟩

theorem still_labeled (l : Content.Labeled) : Still (labeled l) := by
  have hcontrol : Still (control none l.control) := still_control stillState_none l.control
  have hlabel : Still (call "Text"
      [textRow "" l.label ",", colorRow "style: TextStyle(color: " l.labelColor "),"]) :=
    .call rfl (.all ⟨.textRow rfl, .colorRow rfl, trivial⟩)
  have hgap : Still (gapAcross "12.0") := still_gapAcross rfl
  refine .call rfl (.all ⟨.children (.ite ?_ ?_), trivial⟩)
  · exact ⟨hlabel, hgap, hcontrol, trivial⟩
  · exact ⟨hcontrol, hgap, hlabel, trivial⟩

/-! ## Inputs -/

/-- A sight of source text, where a name of an icon ends with its line. -/
def unbrokenSight : Sight → Sight
  | .icon name => .icon (unbroken name)
  | s => s

/-- An icon between still source text. -/
theorem shows_iconRow {name : String} {cs ds : List Char} {d : Char} (hname : IconName name)
    (hd : d = ',' ∨ d = ')') (h : (isStill cs && isStill (d :: ds)) = true) :
    Shows [.icon (unbroken name)]
      (Layout.line [.code (String.ofList cs), .icon name, .code (String.ofList (d :: ds))]).tokens := by
  rw [Bool.and_eq_true] at h
  rw [tokens_line]
  exact (Shows.code h.1).still_left (.icon hname hd h.2)

theorem shows_textField {f : Content.TextField} (hicon : ∀ name ∈ f.icon, IconName name) :
    Shows ((Content.sights (.textField f)).map unbrokenSight) (textField f).tokens := by
  refine .call rfl (.first (.argument rfl ?_) trivial)
  have hbefore : EachStill ((if f.label.isEmpty then [] else [textRow "labelText: " f.label ","]) ++
      [textRow "hintText: " f.hint ","]) :=
    .append (.ite trivial ⟨.textRow rfl, trivial⟩) ⟨.textRow rfl, trivial⟩
  have hafter : EachStill ((f.complaint.map fun s => textRow "errorText: " s ",").toList ++
      [attach "border" (inputBorder none)]) :=
    .append (.option (fun _ => .textRow rfl) _) ⟨.attach rfl (still_inputBorder none), trivial⟩
  rw [List.append_assoc]
  refine .among hbefore ?_ hafter
  cases hf : f.icon with
  | none =>
      simp only [Content.sights, hf]
      exact .nil
  | some name =>
      simp only [Content.sights, hf]
      exact .first (shows_iconRow (hicon name hf) (.inr rfl) rfl) trivial

theorem stillState_dropdownState? (d : Content.Dropdown) (index : Int) :
    StillState (dropdownState? d index) := by
  intro v hv
  simp only [dropdownState?] at hv
  split at hv
  · cases hv
    exact .append (stillText_ofList rfl) (stillText_decimalText index)
  · cases hv

theorem still_selection (d : Content.Dropdown) : Shows [] [selection d] := by
  rw [selection]
  split
  · exact .literal _
  · exact .code rfl

theorem shows_menuItem (c : Choice) : Shows [.item c.value c.label] (menuItem c).tokens := by
  have htokens : (menuItem c).tokens =
      [.code "DropdownMenuItem<String>(", .code "value: ", .literal c.value, .code ",",
        .code "child: Text(", .literal c.label, .code "),", .code "),"] := by
    simp [menuItem, argument, textRow]
  rw [htokens]
  exact fun _ => rfl

theorem shows_dropdown (d : Content.Dropdown) (index : Int) :
    Shows (Content.sights (.dropdown d)) (dropdown d index).tokens := by
  have hstate := stillState_dropdownState? d index
  have hitems : Shows (Content.sights (.dropdown d)) (brackets "items" (d.choices.map menuItem)).tokens := by
    have := Shows.map (f := menuItem) fun c (_ : c ∈ d.choices) => shows_menuItem c
    rw [← List.map_eq_flatMap] at this
    exact .brackets rfl this
  refine .call rfl (.later (.argument rfl (.all ?_)) (.later (.row rfl) (.later ?_ ?_)))
  · refine .append (.append (.ite trivial ⟨.textRow rfl, trivial⟩) (.ite trivial ?_)) ?_
    · exact ⟨.textRow rfl, trivial⟩
    · exact ⟨.row rfl, .colorRow rfl, .attach rfl (still_inputBorder _), trivial⟩
  · exact .around rfl (shows_declaredOr hstate (still_selection d))
  · refine .first hitems ⟨?_, trivial⟩
    split
    · exact still_noState rfl
    · split
      · rename_i v hv
        exact still_setState rfl rfl (hstate v hv)
      · exact still_noState rfl

theorem stillText_keyboard? {kind name : String} (h : keyboard? kind = some name) :
    StillText name := by
  simp only [keyboard?] at h
  split at h
  · cases h; exact stillText_ofList rfl
  split at h
  · cases h; exact stillText_ofList rfl
  split at h
  · cases h; exact stillText_ofList rfl
  split at h
  · cases h; exact stillText_ofList rfl
  · cases h

theorem still_inputField (i : Content.Input) : Still (inputField i) := by
  refine .call rfl (.all (.append (.append (.append (.append (.ite trivial ?_) ?_) ?_) ?_) ?_))
  · exact ⟨.textRow rfl, trivial⟩
  · exact .ite ⟨.row rfl, trivial⟩ trivial
  · exact .ite ⟨.row rfl, trivial⟩ trivial
  · cases hname : keyboard? i.kind with
    | none => trivial
    | some name => exact ⟨still_rowBetween rfl (stillText_keyboard? hname), trivial⟩
  · refine ⟨.argument rfl (.all ⟨.textRow rfl, .attach rfl ?_, trivial⟩), trivial⟩
    exact still_inputBorder _

theorem still_input (i : Content.Input) : Still (input i) := by
  refine .call rfl (.all ⟨.row rfl, .children ⟨.call rfl (.all ?_), ?_⟩, trivial⟩)
  · exact ⟨.textRow rfl, .argument rfl (.all ⟨.row rfl, .colorRow rfl, trivial⟩), trivial⟩
  · exact ⟨still_gapDown rfl, still_inputField i, trivial⟩

/-! ## Chats -/

theorem still_composer (c : Content.Composer) : Still (composer c) := by
  refine .call rfl (.all ⟨.children ⟨.call rfl (.all ⟨.argument rfl (.all ?_), trivial⟩), ?_⟩,
    trivial⟩)
  · refine ⟨.argument rfl (.all ⟨.textRow rfl, .attach rfl (still_inputBorder none), ?_⟩), trivial⟩
    exact ⟨.row rfl, .row rfl, trivial⟩
  · refine ⟨still_gapAcross rfl, .call rfl (.all ⟨.row rfl, .argument rfl (.all ?_), ?_⟩), trivial⟩
    · exact ⟨.colorRow rfl, .colorRow rfl, trivial⟩
    · exact ⟨.textRow rfl, trivial⟩

theorem stillText_side (m : Content.Message) : StillText (side m) := by
  rw [side]
  split
  · exact stillText_ofList rfl
  · exact stillText_ofList rfl

theorem still_messageColumn (m : Content.Message) : Still (messageColumn m) := by
  have hbubble : Still (bubble m) := by
    refine .call rfl (.all ⟨.row rfl, .argument rfl (.all ?_), .argument rfl (.all ?_), trivial⟩)
    · exact ⟨.colorRow rfl, .row rfl, trivial⟩
    · exact ⟨.textRow rfl, .colorRow rfl, trivial⟩
  refine .call rfl (.all ⟨.row rfl, still_rowBetween rfl (stillText_side m), .children ?_, trivial⟩)
  exact ⟨hbubble, .ite ⟨.textRow rfl, trivial⟩ trivial⟩

theorem still_message (m : Content.Message) : Still (message m) := by
  have hcolumn := still_messageColumn m
  rw [message]
  split
  · have havatar : Still (colorRow "CircleAvatar(radius: 16, backgroundColor: " m.avatarColor ")") :=
      .colorRow rfl
    have hflexible : Still (call "Flexible" [attach "child" (messageColumn m)]) :=
      .call rfl (.all ⟨.attach rfl hcolumn, trivial⟩)
    have hgap : Still (gapAcross "8.0") := still_gapAcross rfl
    refine .call rfl (.all ⟨still_rowBetween rfl (stillText_side m), .row rfl, .children ?_, trivial⟩)
    split
    · exact ⟨hflexible, hgap, havatar, trivial⟩
    · exact ⟨havatar, hgap, hflexible, trivial⟩
  · refine .call rfl (.all ⟨?_, .attach rfl hcolumn, trivial⟩)
    split
    · exact .row rfl
    · exact .row rfl

/-! ## Surfaces -/

/-- A name with small letters only is read as it is. -/
theorem unbroken_ofList {cs : List Char} (h : cs.getLast? ≠ some '\n') :
    unbroken (String.ofList cs) = String.ofList cs := by
  rw [unbroken, String.toList_ofList, Icon.dropBreak, if_neg h]

theorem iconName_ofList {cs : List Char} (h : Icon.isName (Icon.dropBreak cs) = true) :
    IconName (String.ofList cs) := by
  rwa [IconName, String.toList_ofList]

theorem shows_image (height : Number) :
    Ensures (fun ls => Shows [.icon "image"] ((ls.map (wrap [] [.code ","])).flatMap tokens))
      (image height) := by
  have hheight : Ensures Still (numberRow "height: " height ",") := still_numberRow rfl
  refine hheight.map fun row hrow => .first (.item ?_) ⟨.item (still_gapDown rfl), trivial⟩
  refine .call rfl (.later hrow (.later (.row rfl) (.later (.argument rfl (.all ?_)) ?_)))
  · exact ⟨.row rfl, .row rfl, trivial⟩
  · have hicon : Shows [.icon "image"] [.icon "image", .code ","] := by
      have := @Shows.icon "image" ',' [] (iconName_ofList rfl) (.inl rfl) rfl
      rwa [unbroken_ofList (by decide)] at this
    refine .first (.argument rfl (.first ?_ ⟨.row rfl, .row rfl, trivial⟩)) trivial
    rwa [tokens_line]

theorem still_cardTexts (c : Content.Card) : EachStill (cardTexts c) := by
  refine .append (.append ⟨.call rfl (.all ?_), trivial⟩ (.ite trivial ?_)) ?_
  · exact ⟨.textRow rfl, .row rfl, trivial⟩
  · refine ⟨still_gapDown rfl, .call rfl (.all ?_), trivial⟩
    exact ⟨.textRow rfl, .row rfl, trivial⟩
  · refine ⟨still_gapDown rfl, .call rfl (.all ?_), trivial⟩
    exact ⟨.textRow rfl, .row rfl, trivial⟩

theorem shows_card (c : Content.Card) :
    Ensures (fun l => Shows (Content.sights (.card c)) l.tokens) (card c) := by
  have helevation : Ensures Still (numberRow "elevation: " c.elevation ",") := still_numberRow rfl
  have hradius : Ensures Still
      (numberRow "borderRadius: BorderRadius.circular(" c.borderRadius "),") := still_numberRow rfl
  rw [card, Content.sights]
  cases c.imageHeight
  -- The rest of the card is the same with an image and without one.
  case' none =>
    have hnone : Ensures (fun ls => Shows [] ((ls.map (wrap [] [.code ","])).flatMap tokens))
        (pure []) := Shows.nil
    refine hnone.bind fun image himage => ?_
  case' some height => refine (shows_image height).bind fun image himage => ?_
  all_goals
    refine helevation.bind fun elevation helevation => hradius.bind fun radius hradius => ?_
    refine (still_paddingRow c.padding).bind fun padding hpadding => ?_
    have htexts : EachStill (cardTexts c) := still_cardTexts c
    refine Shows.call rfl (.later helevation (.later (.colorRow rfl) (.later (.row rfl) ?_)))
    refine .later (.argument rfl (.all ⟨hradius, trivial⟩)) (.first (.argument rfl ?_) trivial)
    refine .later hpadding (.first (.argument rfl (.later (.row rfl) (.first ?_ trivial))) trivial)
    refine .brackets rfl ?_
    rw [List.map_append, List.flatMap_append]
    exact himage.still_right (.all htexts.items)

theorem still_tileExtent (l : Content.Listing) : Ensures Still (tileExtent l) := by
  rw [tileExtent]
  split
  · exact Still.row rfl
  · exact still_numberRow rfl

/-- The sights of an item of a list. -/
def tileSights (l : Content.Listing) (t : Tile) : List Sight :=
  .icon (unbroken t.icon) :: if l.horizontal then [] else [.icon "arrow_forward_ios"]

theorem shows_tile (l : Content.Listing) {t : Tile} (hicon : IconName t.icon) :
    Ensures (fun layout => Shows (tileSights l t) layout.tokens) (tile l t) := by
  refine (still_tileExtent l).map fun extent hextent => ?_
  refine .call rfl (.later hextent (.later ?_ (.later (.argument rfl (.all ?_)) ?_)))
  · split
    · exact .row rfl
    · exact .row rfl
  · exact ⟨.row rfl, .row rfl, .row rfl, trivial⟩
  have hleading : Shows [.icon (unbroken t.icon)]
      (Layout.line [.code "leading: Icon(", .icon t.icon, .code ", color: Colors.blue),"]).tokens :=
    shows_iconRow hicon (.inl rfl) rfl
  have htexts : EachStill [argument "title: Text"
      [textRow "" t.title ",", row "style: const TextStyle(fontWeight: FontWeight.w500),"],
      textRow "subtitle: Text(" t.subtitle "),"] :=
    ⟨.argument rfl (.all ⟨.textRow rfl, .row rfl, trivial⟩), .textRow rfl, trivial⟩
  refine .first (.attach rfl (.call rfl (.flatMap_append (.first hleading htexts) ?_))) trivial
  cases l.horizontal with
  | true => exact .nil
  | false =>
      have harrow : Shows [.icon (unbroken "arrow_forward_ios")]
          (Layout.line [.code "trailing: const Icon(", .icon "arrow_forward_ios",
            .code ", size: 16),"]).tokens := shows_iconRow (iconName_ofList rfl) (.inl rfl) rfl
      rw [unbroken_ofList (by decide)] at harrow
      exact .first harrow trivial

theorem shows_tiles {l : Content.Listing} {ts : List Tile} {ls : List Layout}
    (h : List.Forall₂ (fun t layout => tile l t = .ok layout) ts ls)
    (hicons : ∀ t ∈ ts, IconName t.icon) :
    Shows (ts.flatMap (tileSights l)) ((ls.map (wrap [] [.code ","])).flatMap tokens) := by
  induction h with
  | nil => exact .nil
  | cons htile _ ih =>
      obtain ⟨hicon, hicons⟩ := List.forall_mem_cons.mp hicons
      have hshows := shows_tile l hicon
      rw [htile] at hshows
      exact .cons (.item hshows) (ih hicons)

theorem shows_listing {l : Content.Listing} (hicons : ∀ t ∈ l.tiles, IconName t.icon) :
    Ensures (fun layout => Shows ((Content.sights (.list l)).map unbrokenSight) layout.tokens)
      (listing l) := by
  have hsights : (Content.sights (.list l)).map unbrokenSight = l.tiles.flatMap (tileSights l) := by
    have harrow : unbroken "arrow_forward_ios" = "arrow_forward_ios" := unbroken_ofList (by decide)
    rw [Content.sights, List.map_flatMap]
    refine List.flatMap_congr fun t _ => ?_
    cases hhorizontal : l.horizontal <;> simp [tileSights, unbrokenSight, hhorizontal, harrow]
  rw [listing, hsights]
  cases htiles : l.tiles.mapM (tile l) with
  | error e => trivial
  | ok tiles =>
      have hbefore : EachStill
          ((if l.horizontal then [row "scrollDirection: Axis.horizontal,"] else []) ++
            (if l.scrollable then [] else [row "physics: const NeverScrollableScrollPhysics(),"])) :=
        .append (.ite ⟨.row rfl, trivial⟩ trivial) (.ite trivial ⟨.row rfl, trivial⟩)
      have htiles := shows_tiles (mapM_eq_ok.mp htiles) hicons
      refine .call rfl ?_
      rw [List.flatMap_append]
      exact .still_left (.all hbefore) (.first (.brackets rfl htiles) trivial)

theorem shows_glyph {g : Content.Glyph} (hicon : IconName g.icon) :
    Ensures (fun l => Shows [.icon (unbroken g.icon)] l.tokens) (glyph g) := by
  have hsize : Ensures Still (numberRow "size: " g.size ",") := still_numberRow rfl
  refine hsize.map fun size hsize => .call rfl (.first ?_ ⟨.colorRow rfl, hsize, trivial⟩)
  rw [tokens_line]
  exact .icon hicon (.inl rfl) rfl

theorem still_container (c : Content.Container) : Ensures Still (container c) := by
  refine (still_paddingRow c.padding).bind fun padding hpadding => ?_
  have hmargin : Ensures Still (numberRow "margin: EdgeInsets.all(" c.margin "),") :=
    still_numberRow rfl
  have hradius : Ensures Still
      (numberRow "borderRadius: BorderRadius.circular(" c.borderRadius "),") := still_numberRow rfl
  refine hmargin.bind fun margin hmargin => hradius.bind fun radius hradius => ?_
  refine Shows.call rfl (.all ⟨hpadding, hmargin, .argument rfl (.all ?_), trivial⟩)
  exact ⟨.colorRow rfl, hradius, trivial⟩

/-! ## Rows, columns and stacks -/

theorem still_block {ws hs ss : List Char} (hws : isStill ws = true) (hhs : isStill hs = true)
    (hss : isStill ss = true) :
    Still (block (String.ofList ws) (String.ofList hs) (String.ofList ss)) := by
  refine .call rfl (.all ⟨still_rowBetween rfl (stillText_ofList hws), ?_⟩)
  refine ⟨still_rowBetween rfl (stillText_ofList hhs), ?_⟩
  exact ⟨still_rowBetween rfl (stillText_ofList hss), trivial⟩

theorem stillText_mainAxis (a : MainAxis) : StillText (mainAxis a) := by
  cases a <;> exact .append (stillText_ofList rfl) (stillText_ofList rfl)

theorem stillText_crossAxis (a : CrossAxis) : StillText (crossAxis a) := by
  cases a <;> exact .append (stillText_ofList rfl) (stillText_ofList rfl)

theorem stillText_anchor (a : Anchor) : StillText a.name := by
  cases a <;> exact stillText_ofList rfl

theorem still_flex (f : Content.Flex) : Ensures Still (flex f) := by
  have hmain := stillText_mainAxis f.main
  have hcross := stillText_crossAxis f.cross
  refine (still_paddingRow f.padding).map fun padding hpadding => ?_
  cases f.direction with
  | row =>
      refine .call rfl (.all ⟨hpadding, .argument rfl (.all ?_), trivial⟩)
      refine ⟨still_rowBetween rfl hmain, still_rowBetween rfl hcross, .children ?_, trivial⟩
      have hgap : Still (gapAcross "8.0") := still_gapAcross rfl
      have hblock : Still (block "30.0" "30.0" "300") := still_block rfl rfl rfl
      exact ⟨hblock, hgap, hblock, hgap, hblock, trivial⟩
  | column =>
      refine .call rfl (.all ⟨hpadding, .argument rfl (.all ?_), trivial⟩)
      refine ⟨still_rowBetween rfl hmain, still_rowBetween rfl hcross, .children ?_, trivial⟩
      have hgap : Still (gapDown "8.0") := still_gapDown rfl
      have hblock : Still (block "100.0" "30.0" "300") := still_block rfl rfl rfl
      exact ⟨hblock, hgap, hblock, hgap, hblock, trivial⟩

theorem still_stack (s : Content.Stack) : Ensures Still (stack s) := by
  refine (still_paddingRow s.padding).map fun padding hpadding => ?_
  refine .call rfl (.all ⟨hpadding, .argument rfl (.all ?_), trivial⟩)
  refine ⟨still_rowBetween rfl (stillText_anchor s.anchor), .children ?_, trivial⟩
  exact ⟨still_block rfl rfl rfl, still_block rfl rfl rfl, trivial⟩

/-! ## Tables -/

theorem shows_dataColumn (sortable : Bool) (c : Column) :
    Shows [.heading c.title] (dataColumn sortable c).tokens := by
  cases sortable with
  | true =>
      have htokens : (dataColumn true c).tokens =
          [.code "DataColumn(", .code "label: Text(", .literal c.title, .code "),",
            .code "onSort: (columnIndex, ascending) \x7b\x7d,", .code "),"] := by
        simp [dataColumn, argument, textRow, row]
      rw [htokens]
      exact fun _ => rfl
  | false =>
      have htokens : (dataColumn false c).tokens =
          [.code "DataColumn(label: Text(", .literal c.title, .code ")),"] := by
        simp [dataColumn, textRow]
      rw [htokens]
      exact fun _ => rfl

theorem shows_dataRow (g : Content.Grid) (position : Nat) (cells : ScreenDesign.Row) :
    Shows (.row :: g.table.columns.map fun c => .cell (Content.cellText cells c))
      (dataRow g position cells).tokens := by
  have hcell : ∀ s : String, Shows [.cell s] (textRow "DataCell(Text(" s ")),").tokens := by
    intro s
    rw [textRow, tokens_line]
    exact fun _ => rfl
  have hcells := Shows.map (f := fun c => textRow "DataCell(Text(" (Content.cellText cells c) ")),")
    fun c (_ : c ∈ g.table.columns) => hcell (Content.cellText cells c)
  rw [← List.map_eq_flatMap] at hcells
  have hopening : Shows [.row] [.code "DataRow("] := fun _ => rfl
  have hclosing : Shows [] [.code "),"] := @Shows.code [')', ','] rfl
  have hstripe : EachStill ((g.stripe? position).map fun c =>
      colorRow "color: WidgetStatePropertyAll(" c "),").toList := .option (fun _ => .colorRow rfl) _
  have hcells : Shows (g.table.columns.map fun c => .cell (Content.cellText cells c))
      (brackets "cells" (g.table.columns.map fun c =>
        textRow "DataCell(Text(" (Content.cellText cells c) ")),")).tokens := .brackets rfl hcells
  rw [dataRow, argument, tokens_block, List.flatMap_append]
  refine hopening.append (Shows.still_right (.still_left (.all hstripe) ?_) hclosing)
  exact .first hcells trivial

theorem shows_dataTable (g : Content.Grid) :
    Shows (Content.sights (.grid g)) (dataTable g).tokens := by
  have hcolumns := Shows.map fun c (_ : c ∈ g.table.columns) => shows_dataColumn g.sortable c
  rw [← List.map_eq_flatMap] at hcolumns
  have hrows : Shows (Content.bodySights g) ((g.table.rows.mapIdx (dataRow g)).flatMap tokens) :=
    .mapIdx (shows_dataRow g)
  have hhead : Still (if g.showHeader then
      colorRow "headingRowColor: WidgetStatePropertyAll(" g.headerColor "),"
      else row "headingRowHeight: 0,") := by
    split
    · exact .colorRow rfl
    · exact .row rfl
  have hborder : EachStill (if g.showBorder then
      [colorRow "border: TableBorder.all(color: " g.borderColor "),"] else []) :=
    .ite ⟨.colorRow rfl, trivial⟩ trivial
  refine .call rfl ?_
  rw [List.flatMap_append, List.flatMap_append]
  refine Shows.still_left (.still_left (.first hhead trivial) (.all hborder)) ?_
  exact .cons (.brackets rfl hcolumns) (.first (.brackets rfl hrows) trivial)

theorem still_gridTitle (s : String) : Still (gridTitle s) := by
  refine .call rfl (.all ⟨.row rfl, .argument rfl (.all ⟨.textRow rfl, .argument rfl ?_, trivial⟩),
    trivial⟩)
  exact .all ⟨.row rfl, .row rfl, trivial⟩

theorem shows_grid (g : Content.Grid) : Shows (Content.sights (.grid g)) (grid g).tokens := by
  have htitle : EachStill (if g.title.isEmpty then [] else [gridTitle g.title]) :=
    .ite trivial ⟨still_gridTitle g.title, trivial⟩
  refine .call rfl (.later (.row rfl) (.first (.brackets rfl ?_) trivial))
  rw [List.map_append, List.flatMap_append]
  refine Shows.still_left (.all htitle.items) (.first (.item (.call rfl (.first ?_ trivial))) trivial)
  exact .argument rfl (.later (.row rfl) (.first (.attach rfl (shows_dataTable g)) trivial))

/-! ## Everything -/

theorem iconName_resolve {fallback : String} (h : IconName fallback) (j : Json) :
    IconName (Icon.resolve fallback j) := by
  cases j with
  | text s =>
      simp only [Icon.resolve]
      split
      · assumption
      · exact h
  | null => exact h
  | bool => exact h
  | number => exact h
  | list => exact h
  | object => exact h

/-- The icons in a content that was read have proper names. -/
theorem iconName_of_mem_iconNames {e : Element} {c : Content} (h : e.content.result = .ok c) :
    ∀ name ∈ iconNames c, IconName name := by
  intro name hname
  obtain ⟨fallback, j, hfallback, rfl⟩ := exists_resolve_of_mem_iconNames h name hname
  rcases hfallback with rfl | rfl
  · exact iconName_resolve (iconName_ofList rfl) j
  · exact iconName_resolve (iconName_ofList rfl) j

/-- The widget of a content shows the sights of the content. -/
theorem shows_widget (index : Int) {c : Content} (h : ∀ name ∈ iconNames c, IconName name) :
    Ensures (fun l => Shows (c.sights.map unbrokenSight) l.tokens) (widget index c) := by
  cases c with
  | button b =>
      have hroute : (Content.sights (.button b)).map unbrokenSight = Content.sights (.button b) := by
        simp only [Content.sights]
        cases b.target <;> rfl
      rw [hroute]
      exact shows_button b
  | textField f => exact shows_textField fun name hname => h name (Option.mem_toList.mpr hname)
  | card c =>
      have himage : (Content.sights (.card c)).map unbrokenSight = Content.sights (.card c) := by
        have : unbroken "image" = "image" := unbroken_ofList (by decide)
        simp only [Content.sights]
        cases c.imageHeight <;> simp [unbrokenSight, this]
      rw [himage]
      exact shows_card c
  | list l => exact shows_listing fun t ht => h t.icon (List.mem_map_of_mem ht)
  | icon g => exact shows_glyph (h g.icon (List.mem_singleton.mpr rfl))
  | container c => exact still_container c
  | flex f => exact still_flex f
  | stack s => exact still_stack s
  | choosable c => exact still_choosable c index
  | control c => exact still_control stillState_none c
  | labeled l => exact still_labeled l
  | composer c => exact still_composer c
  | message m => exact still_message m
  | dropdown d =>
      have hitems : (Content.sights (.dropdown d)).map unbrokenSight =
          Content.sights (.dropdown d) := by
        rw [Content.sights, List.map_map]
        rfl
      rw [hitems]
      exact shows_dropdown d index
  | input i => exact still_input i
  | grid g =>
      have hcells : (Content.sights (.grid g)).map unbrokenSight = Content.sights (.grid g) := by
        simp [Content.sights, Content.bodySights, unbrokenSight, List.map_flatMap,
          Function.comp_def]
      rw [hcells]
      exact shows_grid g

end ScreenDesign.Dart
