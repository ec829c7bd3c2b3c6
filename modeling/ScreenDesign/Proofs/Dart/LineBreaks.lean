import ScreenDesign.Proofs.Dart.Declarations
import ScreenDesign.Proofs.Dart.Escapes
import ScreenDesign.Proofs.Dart.SightsWidget
import ScreenDesign.Proofs.Number.Text
import ScreenDesign.Proofs.Readable

/-!
# Line breaks in widgets

The name of an icon is an identifier, perhaps with one line break behind it (`Resolves`).  It is the
only text from a design that stands in a widget outside of literals, and no other part of a widget
has a line break.  So the line breaks in the lines of a widget are those behind the names of its
icons (`flatMap_lineBreaks_widget`), and without such a name every line is one line.
-/

namespace ScreenDesign.Dart

open Layout

/-! ## Identifiers -/

/-- A text of small letters, digits and underscores that begins with no digit. -/
structure Identifier (s : String) : Prop where
  /-- There is a first character. -/
  ne_empty : s ≠ ""
  /-- Every character is a small letter, a digit or an underscore. -/
  parts : ∀ c ∈ s.toList, ('a' ≤ c ∧ c ≤ 'z') ∨ ('0' ≤ c ∧ c ≤ '9') ∨ c = '_'
  /-- The first one is no digit. -/
  start : ∀ c ∈ s.toList.head?, ¬('0' ≤ c ∧ c ≤ '9')

theorem isLower_iff {c : Char} : c.isLower = true ↔ 'a' ≤ c ∧ c ≤ 'z' := by
  have hrange : c.isLower = (decide ('a' ≤ c) && decide (c ≤ 'z')) := rfl
  rw [hrange, Bool.and_eq_true, decide_eq_true_eq, decide_eq_true_eq]

theorem isDigit_iff {c : Char} : c.isDigit = true ↔ '0' ≤ c ∧ c ≤ '9' := by
  have hrange : c.isDigit = (decide ('0' ≤ c) && decide (c ≤ '9')) := rfl
  rw [hrange, Bool.and_eq_true, decide_eq_true_eq, decide_eq_true_eq]

theorem isPart_iff {c : Char} :
    Icon.isPart c = true ↔ ('a' ≤ c ∧ c ≤ 'z') ∨ ('0' ≤ c ∧ c ≤ '9') ∨ c = '_' := by
  rw [Icon.isPart, Icon.isStart, Bool.or_eq_true, Bool.or_eq_true, isLower_iff, isDigit_iff,
    decide_eq_true_eq]
  exact or_right_comm.trans or_assoc

/-- A name can begin with any of its characters but a digit. -/
theorem isStart_iff {c : Char} :
    Icon.isStart c = true ↔ Icon.isPart c = true ∧ ¬('0' ≤ c ∧ c ≤ '9') := by
  have hother (h : Icon.isStart c = true) : ¬('0' ≤ c ∧ c ≤ '9') := by
    rintro ⟨-, hnine⟩
    rw [Icon.isStart, Bool.or_eq_true, isLower_iff, decide_eq_true_eq] at h
    rcases h with ⟨hletter, -⟩ | rfl
    · exact absurd (UInt32.le_trans hletter hnine) (by decide)
    · exact absurd hnine (by decide)
  rw [Icon.isPart, Bool.or_eq_true]
  constructor
  · exact fun h => ⟨.inl h, hother h⟩
  · rintro ⟨h | h, hc⟩
    · exact h
    · exact absurd (isDigit_iff.mp h) hc

/-- The check of a name without a line break behind it. -/
theorem identifier_iff {s : String} : Identifier s ↔ Icon.isName s.toList = true := by
  constructor
  · rintro ⟨hne, hparts, hstart⟩
    cases hs : s.toList with
    | nil => exact absurd (String.toList_eq_nil_iff.mp hs) hne
    | cons c cs =>
        simp only [hs, List.forall_mem_cons, ← isPart_iff] at hparts
        rw [Icon.isName, isStart_iff.mpr ⟨hparts.1, hstart c (by simp [hs])⟩, Bool.true_and]
        exact List.all_eq_true.mpr hparts.2
  · intro h
    have hparts := all_isPart_of_isName h
    refine ⟨?_, fun c hc => isPart_iff.mp (hparts c hc), ?_⟩
    · rintro rfl
      cases h
    · cases hs : s.toList with
      | nil => exact fun c hc => absurd hc (Option.not_mem_none c)
      | cons c cs =>
          rw [hs, Icon.isName, Bool.and_eq_true] at h
          rintro _ ⟨⟩
          exact (isStart_iff.mp h.1).2

/-- No character of an identifier is a line break. -/
theorem Identifier.oneLine {s : String} (h : Identifier s) : OneLine s := by
  intro c hc
  have hpart := isPart_iff.mpr (h.parts c hc)
  refine ⟨?_, ?_⟩ <;> rintro rfl <;> cases hpart

theorem dropBreak_of_oneLine {s : String} (h : OneLine s) : Icon.dropBreak s.toList = s.toList := by
  rw [Icon.dropBreak, if_neg]
  exact fun hlast => (h '\n' (List.mem_of_getLast? hlast)).1 rfl

theorem dropBreak_break (s : String) : Icon.dropBreak (s ++ "\n").toList = s.toList := by
  simp [Icon.dropBreak]

/-- The names of icons are the identifiers, with one line break behind them or without. -/
theorem iconName_iff {s : String} :
    IconName s ↔ ∃ name, Identifier name ∧ (s = name ∨ s = name ++ "\n") := by
  constructor
  · intro h
    rw [IconName, Icon.dropBreak] at h
    split at h
    · rename_i hlast
      obtain ⟨cs, hcs⟩ := List.getLast?_eq_some_iff.mp hlast
      rw [hcs, List.dropLast_concat] at h
      refine ⟨String.ofList cs, identifier_iff.mpr (by rwa [String.toList_ofList]), .inr ?_⟩
      rw [← String.toList_inj, hcs, String.toList_append, String.toList_ofList]
      rfl
    · exact ⟨s, identifier_iff.mpr h, .inl rfl⟩
  · rintro ⟨name, hname, rfl | rfl⟩
    · rw [IconName, dropBreak_of_oneLine hname.oneLine]
      exact identifier_iff.mp hname
    · rw [IconName, dropBreak_break]
      exact identifier_iff.mp hname

/-! ## Resolving -/

/-- How a value becomes the name of an icon, with a name that stands in for others. -/
structure Resolves (fallback : String) (resolve : Json → String) : Prop where
  /-- An identifier is kept. -/
  kept : ∀ name, Identifier name → resolve (.text name) = name
  /-- So is an identifier with one line break behind it. -/
  broken : ∀ name, Identifier name → resolve (.text (name ++ "\n")) = name ++ "\n"
  /-- Any other value is replaced. -/
  replaced : ∀ j, (∀ name, Identifier name → j ≠ .text name ∧ j ≠ .text (name ++ "\n")) →
    resolve j = fallback
  /-- What comes out is an identifier, unless a line break was kept. -/
  identifier : ∀ j, Identifier (resolve j) ↔
    ∀ name, Identifier name → j ≠ .text (name ++ "\n")

theorem resolve_of_iconName (fallback : String) {s : String} (h : IconName s) :
    Icon.resolve fallback (.text s) = s := if_pos h

theorem resolve_of_not_iconName {fallback : String} {j : Json}
    (h : ∀ s, IconName s → j ≠ .text s) : Icon.resolve fallback j = fallback := by
  cases j with
  | text s => exact if_neg fun hname => h s hname rfl
  | null => rfl
  | bool => rfl
  | number => rfl
  | list => rfl
  | object => rfl

theorem not_identifier_break (name : String) : ¬Identifier (name ++ "\n") := fun h =>
  (h.oneLine '\n' (by simp)).1 rfl

theorem resolves {fallback : String} (h : Identifier fallback) :
    Resolves fallback (Icon.resolve fallback) := by
  have hkept (name : String) (hname : Identifier name) :
      Icon.resolve fallback (.text name) = name :=
    resolve_of_iconName fallback (iconName_iff.mpr ⟨name, hname, .inl rfl⟩)
  have hbroken (name : String) (hname : Identifier name) :
      Icon.resolve fallback (.text (name ++ "\n")) = name ++ "\n" :=
    resolve_of_iconName fallback (iconName_iff.mpr ⟨name, hname, .inr rfl⟩)
  have hreplaced (j : Json)
      (hj : ∀ name, Identifier name → j ≠ .text name ∧ j ≠ .text (name ++ "\n")) :
      Icon.resolve fallback j = fallback := by
    refine resolve_of_not_iconName fun s hs => ?_
    obtain ⟨name, hname, rfl | rfl⟩ := iconName_iff.mp hs
    · exact (hj s hname).1
    · exact (hj name hname).2
  refine ⟨hkept, hbroken, hreplaced, fun j => ⟨?_, fun hj => ?_⟩⟩
  · rintro hresolved name hname rfl
    rw [hbroken name hname] at hresolved
    exact not_identifier_break name hresolved
  · by_cases hname : ∃ name, Identifier name ∧ j = .text name
    · obtain ⟨name, hname, rfl⟩ := hname
      rwa [hkept name hname]
    · rw [hreplaced j fun name h => ⟨fun hname' => hname ⟨name, h, hname'⟩, hj name h⟩]
      exact h

/-! ## Line breaks -/

/-- The line breaks of a text, in order. -/
def lineBreaks (s : String) : List Char := s.toList.filter fun c => c = '\n' ∨ c = '\r'

theorem lineBreaks_eq_nil_iff {s : String} : lineBreaks s = [] ↔ OneLine s := by
  simp [lineBreaks, OneLine]

@[simp] theorem OneLine.lineBreaks_eq {s : String} (h : OneLine s) : lineBreaks s = [] :=
  lineBreaks_eq_nil_iff.mpr h

theorem lineBreaks_append (s t : String) : lineBreaks (s ++ t) = lineBreaks s ++ lineBreaks t := by
  rw [lineBreaks, String.toList_append, List.filter_append]
  rfl

theorem oneLine_of_isNumeric {s : String} (h : s.toList.all isNumeric = true) : OneLine s := by
  intro c hc
  have hnumeric := List.all_eq_true.mp h c hc
  refine ⟨?_, ?_⟩ <;> rintro rfl
  all_goals exact absurd hnumeric (by decide)

theorem oneLine_literal (s : String) : OneLine (literal s) := by
  obtain ⟨_, _, _, hlines, _⟩ := literal_encodes s
  exact hlines

theorem oneLine_color (c : Color) : OneLine (color c) := by
  have hbefore : OneLine "Color(0xFF" := oneLine_ofList rfl
  have hafter : OneLine ")" := oneLine_ofList rfl
  have hdigit : ∀ n, Text.hexDigit n ≠ '\n' ∧ Text.hexDigit n ≠ '\r' := by decide
  refine (hbefore.append fun d hd => ?_).append hafter
  rw [String.toList_ofList] at hd
  obtain ⟨n, rfl⟩ := Shows.exists_hexDigit c d hd
  exact hdigit n

theorem lineBreaks_icon (s : String) : lineBreaks (icon s) = lineBreaks s := by
  rw [lineBreaks, toList_icon, List.filter_append]
  rfl

/-- The line breaks of a token. -/
def Token.breaks (t : Token) : List Char := lineBreaks t.text

namespace Token

@[simp] theorem breaks_code (s : String) : (code s).breaks = lineBreaks s := rfl

@[simp] theorem breaks_declared (s : String) : (declared s).breaks = lineBreaks s := rfl

@[simp] theorem breaks_literal (s : String) : (literal s).breaks = [] :=
  (oneLine_literal s).lineBreaks_eq

@[simp] theorem breaks_number (x : Binary64) : (number x).breaks = [] :=
  (oneLine_of_isNumeric x.all_isNumeric_onePlace).lineBreaks_eq

@[simp] theorem breaks_color (c : Color) : (color c).breaks = [] := (oneLine_color c).lineBreaks_eq

@[simp] theorem breaks_icon (s : String) : (icon s).breaks = lineBreaks s := lineBreaks_icon s

end Token

/-! ## Lines -/

/-- A line has the line breaks of its tokens. -/
theorem lineBreaks_lineText (depth : Nat) (ts : List Token) :
    lineBreaks (lineText depth ts) = ts.flatMap Token.breaks := by
  have hindent : OneLine (indent depth) := by
    intro c hc
    rw [indent, String.toList_ofList] at hc
    rw [(List.mem_replicate.mp hc).2]
    decide
  have hjoin : lineBreaks (String.join (ts.map Token.text)) = ts.flatMap Token.breaks := by
    induction ts with
    | nil => rfl
    | cons t ts ih =>
        rw [List.map_cons, String.join_cons, lineBreaks_append, ih]
        rfl
  rw [lineText]
  split
  · rename_i hempty
    rw [List.isEmpty_iff.mp hempty]
    rfl
  · rw [lineBreaks_append, hindent.lineBreaks_eq, hjoin, List.nil_append]

namespace Layout

/-- The line breaks of a layout, in order. -/
def breaks (l : Layout) : List Char := l.tokens.flatMap Token.breaks

/-- The lines of a layout have its line breaks. -/
theorem flatMap_lineBreaks_lines (depth : Nat) (l : Layout) :
    (lines depth l).flatMap lineBreaks = l.breaks := by
  have hrows := showsRow_lines depth l
  rw [breaks, tokens]
  generalize lines depth l = ls at hrows
  generalize l.rows = rows at hrows ⊢
  induction hrows with
  | nil => rfl
  | cons hline hrows ih =>
      obtain ⟨d, rfl⟩ := hline
      rw [List.flatMap_cons, List.flatten_cons, List.flatMap_append, lineBreaks_lineText, ih]

/-! ## Layouts -/

section

variable (name key head tail before after : String) (body : List Layout)

@[simp] theorem breaks_line (ts : List Token) :
    (Layout.line ts).breaks = ts.flatMap Token.breaks := by rw [breaks, tokens_line]

@[simp] theorem breaks_block (opening closing : List Token) :
    (Layout.block opening body closing).breaks =
      opening.flatMap Token.breaks ++ (body.flatMap breaks ++ closing.flatMap Token.breaks) := by
  have hbody : (body.flatMap tokens).flatMap Token.breaks = body.flatMap breaks :=
    List.flatMap_assoc
  rw [breaks, tokens_block, List.flatMap_append, List.flatMap_append, hbody]

@[simp] theorem breaks_row : (row name).breaks = lineBreaks name := by simp [row]

@[simp] theorem breaks_call : (call name body).breaks = lineBreaks name ++ body.flatMap breaks := by
  simp (disch := exact oneLine_ofList rfl) [call, lineBreaks_append]

@[simp] theorem breaks_argument :
    (argument name body).breaks = lineBreaks name ++ body.flatMap breaks := by
  simp (disch := exact oneLine_ofList rfl) [argument, lineBreaks_append]

@[simp] theorem breaks_braces :
    (braces head body tail).breaks =
      lineBreaks head ++ (body.flatMap breaks ++ lineBreaks tail) := by
  simp (disch := exact oneLine_ofList rfl) [braces, lineBreaks_append]

@[simp] theorem breaks_brackets :
    (brackets key body).breaks = lineBreaks key ++ body.flatMap breaks := by
  simp (disch := exact oneLine_ofList rfl) [brackets, lineBreaks_append]

@[simp] theorem breaks_wrap (opening closing : List Token) (l : Layout) :
    (l.wrap opening closing).breaks =
      opening.flatMap Token.breaks ++ (l.breaks ++ closing.flatMap Token.breaks) := by
  simp [breaks]

@[simp] theorem breaks_attach (l : Layout) :
    (attach key l).breaks = lineBreaks key ++ l.breaks := by
  simp (disch := exact oneLine_ofList rfl) [attach, lineBreaks_append]

@[simp] theorem breaks_children : (children body).breaks = body.flatMap breaks := by
  simp (disch := exact oneLine_ofList rfl) [children, List.flatMap_map]

@[simp] theorem breaks_textRow (s : String) :
    (textRow before s after).breaks = lineBreaks before ++ lineBreaks after := by
  simp [textRow]

@[simp] theorem breaks_colorRow (c : Color) :
    (colorRow before c after).breaks = lineBreaks before ++ lineBreaks after := by
  simp [colorRow]

@[simp] theorem flatMap_breaks_ite {c : Prop} [Decidable c] (ls ms : List Layout) :
    (if c then ls else ms).flatMap breaks = if c then ls.flatMap breaks else ms.flatMap breaks :=
  apply_ite (List.flatMap breaks) c ls ms

@[simp] theorem flatMap_breaks_option {α : Type} (f : α → Layout) (x : Option α) :
    (x.map f).toList.flatMap breaks = x.toList.flatMap fun a => (f a).breaks := by
  cases x <;> simp

end

end Layout

/-! ## Pieces

The checks that fixed source text has no line break close by evaluation. -/

theorem breaks_numberRow {cs ds : List Char}
    (h : (cs ++ ds).all (fun c => c != '\n' && c != '\r') = true) (n : Number) :
    Ensures (breaks · = []) (numberRow (String.ofList cs) n (String.ofList ds)) := by
  rw [List.all_append, Bool.and_eq_true] at h
  rw [numberRow]
  cases double n with
  | error e => trivial
  | ok x =>
      simp [Ensures, Except.map, (oneLine_ofList h.1).lineBreaks_eq,
        (oneLine_ofList h.2).lineBreaks_eq]

theorem breaks_paddingRow (n : Number) : Ensures (breaks · = []) (paddingRow n) :=
  breaks_numberRow rfl n

@[simp] theorem breaks_gapAcross (width : String) :
    (gapAcross width).breaks = lineBreaks width := by
  simp (disch := exact oneLine_ofList rfl) [gapAcross, lineBreaks_append]

@[simp] theorem breaks_gapDown (height : String) : (gapDown height).breaks = lineBreaks height := by
  simp (disch := exact oneLine_ofList rfl) [gapDown, lineBreaks_append]

@[simp] theorem breaks_inputBorder (c : Option Color) : (inputBorder c).breaks = [] := by
  simp (disch := exact oneLine_ofList rfl) [inputBorder]

@[simp] theorem breaks_truth (b : Bool) : (truth b).breaks = [] := by
  cases b <;> simp (disch := exact oneLine_ofList rfl) [truth]

@[simp] theorem breaks_setState (parameter v value : String) :
    (setState parameter v value).breaks =
      lineBreaks parameter ++ (lineBreaks v ++ lineBreaks value) := by
  simp (disch := exact oneLine_ofList rfl) [setState, lineBreaks_append]

@[simp] theorem breaks_noState {parameter : String} (h : OneLine parameter) (disabled : Bool) :
    (noState disabled parameter).breaks = [] := by
  cases disabled <;>
    simp (disch := exact oneLine_ofList rfl) [noState, lineBreaks_append, h.lineBreaks_eq]

/-! ## Widgets without icons -/

theorem breaks_pressed (target : Option String) : (pressed target).breaks = [] := by
  cases target <;> simp (disch := exact oneLine_ofList rfl) [pressed]

theorem breaks_button (b : Content.Button) : Ensures (breaks · = []) (button b) := by
  have hshape : (buttonShape b.rounded).breaks = [] := by
    cases hrounded : b.rounded <;> simp (disch := exact oneLine_ofList rfl) [buttonShape]
  have hlabel : (buttonLabel b.text).breaks = [] := by
    simp (disch := exact oneLine_ofList rfl) [buttonLabel]
  refine (breaks_paddingRow b.padding).map fun padding hpadding => ?_
  cases b.look <;>
    simp (disch := exact oneLine_ofList rfl)
      [filledButton, breaks_pressed, hshape, hlabel, hpadding]

/-- The state variable that a control shows, if there is one, has no line break. -/
def OneLineState (state : Option String) : Prop := ∀ v ∈ state, OneLine v

theorem oneLineState_none : OneLineState none := by
  intro v hv
  cases hv

theorem breaks_control {state : Option String} (hstate : OneLineState state) (c : Control) :
    (control state c).breaks = [] := by
  cases c with
  | toggle on disabled active inactive =>
      cases state with
      | none => simp (disch := exact oneLine_ofList rfl) [control]
      | some v => simp (disch := exact oneLine_ofList rfl) [control, (hstate v rfl).lineBreaks_eq]
  | checkbox on disabled active =>
      cases state with
      | none => simp (disch := exact oneLine_ofList rfl) [control]
      | some v => simp (disch := exact oneLine_ofList rfl) [control, (hstate v rfl).lineBreaks_eq]
  | radio on disabled active group =>
      cases on <;> simp (disch := exact oneLine_ofList rfl) [control]

/-- The names of state variables have no line breaks. -/
theorem oneLine_of_stateName? {index : Int} {c : Content} {v : String}
    (h : stateName? index c = some v) : OneLine v := by
  obtain ⟨stem, hstem, rfl⟩ := exists_stem h
  refine OneLine.append ?_ (oneLine_of_isNumeric (all_isNumeric_decimalText index))
  simp only [stems, List.mem_cons, List.not_mem_nil, or_false] at hstem
  rcases hstem with rfl | rfl | rfl <;> exact oneLine_ofList rfl

theorem breaks_choosable (c : Content.Choosable) (index : Int) :
    (choosable c index).breaks = [] := by
  have hstate : OneLineState (stateName? index (.choosable c)) := fun _ => oneLine_of_stateName?
  have hcontrol : (control (stateOf? c index) c.control).breaks = [] :=
    breaks_control hstate c.control
  rw [choosable, withLabel]
  split
  · exact hcontrol
  · simp (disch := exact oneLine_ofList rfl) [hcontrol]

theorem breaks_labeled (l : Content.Labeled) : (labeled l).breaks = [] := by
  have hcontrol : (control none l.control).breaks = [] := breaks_control oneLineState_none l.control
  simp (disch := exact oneLine_ofList rfl) [labeled, hcontrol]

theorem breaks_menuItem (c : Choice) : (menuItem c).breaks = [] := by
  simp (disch := exact oneLine_ofList rfl) [menuItem]

theorem breaks_dropdown (d : Content.Dropdown) (index : Int) : (dropdown d index).breaks = [] := by
  have hstate : OneLineState (stateName? index (.dropdown d)) := fun _ => oneLine_of_stateName?
  have hselection : (selection d).breaks = [] := by
    rw [selection]
    split <;> simp (disch := exact oneLine_ofList rfl)
  cases hname : dropdownState? d index with
  | none =>
      cases hdisabled : d.disabled <;>
        simp (disch := exact oneLine_ofList rfl)
          [dropdown, hname, hdisabled, hselection, List.flatMap_map, breaks_menuItem]
  | some v =>
      have hv := (hstate v hname).lineBreaks_eq
      cases hdisabled : d.disabled <;>
        simp (disch := exact oneLine_ofList rfl)
          [dropdown, hname, hdisabled, hv, List.flatMap_map, breaks_menuItem]

theorem breaks_input (i : Content.Input) : (input i).breaks = [] := by
  have hkeyboard : (keyboard? i.kind).toList.flatMap lineBreaks = [] := by
    rw [keyboard?]
    repeat' split
    all_goals simp (disch := exact oneLine_ofList rfl)
  have hfield : (inputField i).breaks = [] := by
    simp (disch := exact oneLine_ofList rfl) [inputField, lineBreaks_append, hkeyboard]
  simp (disch := exact oneLine_ofList rfl) [input, hfield]

theorem breaks_composer (c : Content.Composer) : (composer c).breaks = [] := by
  simp (disch := exact oneLine_ofList rfl) [composer]

theorem breaks_message (m : Content.Message) : (message m).breaks = [] := by
  have hside : lineBreaks (side m) = [] := by
    rw [side]
    split <;> simp (disch := exact oneLine_ofList rfl)
  have hcolumn : (messageColumn m).breaks = [] := by
    simp (disch := exact oneLine_ofList rfl) [messageColumn, bubble, lineBreaks_append, hside]
  cases havatar : m.avatar <;> cases hown : m.isOwn <;>
    simp (disch := exact oneLine_ofList rfl)
      [message, havatar, hown, hcolumn, lineBreaks_append, hside]

theorem breaks_image (height : Number) :
    Ensures (fun ls => ls.flatMap breaks = []) (image height) := by
  have hheight : Ensures (breaks · = []) (numberRow "height: " height ",") :=
    breaks_numberRow rfl height
  refine hheight.map fun row hrow => ?_
  simp (disch := exact oneLine_ofList rfl) [hrow]

theorem breaks_card (c : Content.Card) : Ensures (breaks · = []) (card c) := by
  have htexts : (cardTexts c).flatMap breaks = [] := by
    simp (disch := exact oneLine_ofList rfl) [cardTexts]
  have helevation : Ensures (breaks · = []) (numberRow "elevation: " c.elevation ",") :=
    breaks_numberRow rfl c.elevation
  have hradius : Ensures (breaks · = [])
      (numberRow "borderRadius: BorderRadius.circular(" c.borderRadius "),") :=
    breaks_numberRow rfl c.borderRadius
  rw [card]
  cases c.imageHeight
  -- The rest of the card is the same with an image and without one.
  all_goals refine .bind (P := fun ls => ls.flatMap breaks = []) ?_ fun image himage => ?_
  case none.refine_1 => rfl
  case some.refine_1 height => exact breaks_image height
  all_goals
    refine helevation.bind fun elevation helevation => hradius.bind fun radius hradius => ?_
    refine (breaks_paddingRow c.padding).bind fun padding hpadding => ?_
    simp (disch := exact oneLine_ofList rfl)
      [Ensures, pure, Except.pure, helevation, hradius, hpadding, himage, htexts]

theorem breaks_container (c : Content.Container) : Ensures (breaks · = []) (container c) := by
  have hmargin : Ensures (breaks · = []) (numberRow "margin: EdgeInsets.all(" c.margin "),") :=
    breaks_numberRow rfl c.margin
  have hradius : Ensures (breaks · = [])
      (numberRow "borderRadius: BorderRadius.circular(" c.borderRadius "),") :=
    breaks_numberRow rfl c.borderRadius
  refine (breaks_paddingRow c.padding).bind fun padding hpadding => ?_
  refine hmargin.bind fun margin hmargin => hradius.bind fun radius hradius => ?_
  simp (disch := exact oneLine_ofList rfl)
    [Ensures, pure, Except.pure, hmargin, hradius, hpadding]

@[simp] theorem breaks_placeholder (width height shade : String) :
    (block width height shade).breaks =
      lineBreaks width ++ (lineBreaks height ++ lineBreaks shade) := by
  simp (disch := exact oneLine_ofList rfl) [block, lineBreaks_append]

theorem breaks_flex (f : Content.Flex) : Ensures (breaks · = []) (flex f) := by
  have hmain : OneLine (mainAxis f.main) := by
    cases f.main <;> exact .append (oneLine_ofList rfl) (oneLine_ofList rfl)
  have hcross : OneLine (crossAxis f.cross) := by
    cases f.cross <;> exact .append (oneLine_ofList rfl) (oneLine_ofList rfl)
  refine (breaks_paddingRow f.padding).map fun padding hpadding => ?_
  cases f.direction <;>
    simp (disch := exact oneLine_ofList rfl)
      [hpadding, hmain.lineBreaks_eq, hcross.lineBreaks_eq, lineBreaks_append]

theorem breaks_stack (s : Content.Stack) : Ensures (breaks · = []) (stack s) := by
  have hanchor : OneLine s.anchor.name := by
    cases s.anchor <;> exact oneLine_ofList rfl
  refine (breaks_paddingRow s.padding).map fun padding hpadding => ?_
  simp (disch := exact oneLine_ofList rfl) [hpadding, hanchor.lineBreaks_eq, lineBreaks_append]

theorem breaks_grid (g : Content.Grid) : (grid g).breaks = [] := by
  have hcolumn (c : Column) : (dataColumn g.sortable c).breaks = [] := by
    cases g.sortable <;> simp (disch := exact oneLine_ofList rfl) [dataColumn]
  have hrow (i : Nat) (cells : ScreenDesign.Row) : (dataRow g i cells).breaks = [] := by
    simp (disch := exact oneLine_ofList rfl) [dataRow, List.flatMap_map]
  have hrows : (g.table.rows.mapIdx (dataRow g)).flatMap breaks = [] := by
    refine List.flatMap_eq_nil_iff.mpr fun l hl => ?_
    obtain ⟨i, hi, rfl⟩ := List.mem_mapIdx.mp hl
    exact hrow i _
  have htable : (dataTable g).breaks = [] := by
    cases hheader : g.showHeader <;>
      simp (disch := exact oneLine_ofList rfl)
        [dataTable, hheader, List.flatMap_map, hcolumn, hrows]
  simp (disch := exact oneLine_ofList rfl) [grid, gridTitle, htable]

/-! ## Widgets with icons -/

theorem breaks_textField (f : Content.TextField) :
    (textField f).breaks = f.icon.toList.flatMap lineBreaks := by
  simp (disch := exact oneLine_ofList rfl) [textField]

theorem breaks_glyph (g : Content.Glyph) :
    Ensures (fun l => l.breaks = lineBreaks g.icon) (glyph g) := by
  have hsize : Ensures (breaks · = []) (numberRow "size: " g.size ",") :=
    breaks_numberRow rfl g.size
  refine hsize.map fun size hsize => ?_
  simp (disch := exact oneLine_ofList rfl) [hsize]

theorem breaks_tile (l : Content.Listing) (t : Tile) :
    Ensures (fun layout => layout.breaks = lineBreaks t.icon) (tile l t) := by
  have hextent : Ensures (breaks · = []) (tileExtent l) := by
    rw [tileExtent]
    have hwidth : OneLine "width: 200.0," := oneLine_ofList rfl
    split
    · exact (breaks_row _).trans hwidth.lineBreaks_eq
    · exact breaks_numberRow rfl l.itemHeight
  refine hextent.map fun extent hextent => ?_
  cases hhorizontal : l.horizontal <;> simp (disch := exact oneLine_ofList rfl) [hextent]

theorem breaks_listing (l : Content.Listing) :
    Ensures (fun layout => layout.breaks = (l.tiles.map Tile.icon).flatMap lineBreaks)
      (listing l) := by
  have htiles (ts : List Tile) : Ensures
      (fun ls => ls.flatMap breaks = (ts.map Tile.icon).flatMap lineBreaks) (ts.mapM (tile l)) := by
    induction ts with
    | nil => exact rfl
    | cons t ts ih =>
        rw [List.mapM_cons]
        refine (breaks_tile l t).bind fun layout hlayout => ih.bind fun layouts hlayouts => ?_
        simp [Ensures, pure, Except.pure, hlayout, hlayouts]
  refine (htiles l.tiles).map fun layouts hlayouts => ?_
  simp (disch := exact oneLine_ofList rfl) [hlayouts]

/-! ## Everything -/

/-- The line breaks of a widget are those of the names of its icons. -/
theorem breaks_widget (index : Int) (c : Content) :
    Ensures (fun l => l.breaks = (iconNames c).flatMap lineBreaks) (widget index c) := by
  cases c with
  | button b => exact breaks_button b
  | textField f => exact breaks_textField f
  | card c => exact breaks_card c
  | list l => exact breaks_listing l
  | icon g =>
      rw [iconNames, List.flatMap_singleton]
      exact breaks_glyph g
  | container c => exact breaks_container c
  | flex f => exact breaks_flex f
  | stack s => exact breaks_stack s
  | choosable c => exact breaks_choosable c index
  | control c => exact breaks_control oneLineState_none c
  | labeled l => exact breaks_labeled l
  | composer c => exact breaks_composer c
  | message m => exact breaks_message m
  | dropdown d => exact breaks_dropdown d index
  | input i => exact breaks_input i
  | grid g => exact breaks_grid g

/-- The line breaks in the lines of a widget are those behind the names of its icons. -/
theorem flatMap_lineBreaks_widget {i : Int} {e : Element} {c : Content} {l : Layout}
    (hc : e.content.result = .ok c) (hl : (elementWidget i e).result = .ok l) :
    (lines 0 l).flatMap lineBreaks = (iconNames c).flatMap lineBreaks := by
  have hbreaks := breaks_widget i c
  rw [← Element.result_elementWidget hc i, hl] at hbreaks
  rw [flatMap_lineBreaks_lines]
  exact hbreaks

/-- What the lines of a widget have of line breaks, by the names of its icons. -/
structure BreaksAtIcons (names lines : List String) : Prop where
  /-- The names are identifiers, with one line break behind them or without. -/
  named : ∀ n ∈ names, ∃ name, Identifier name ∧ (n = name ∨ n = name ++ "\n")
  /-- The lines have just the line breaks of the names. -/
  breaks : lines.flatMap lineBreaks = names.flatMap lineBreaks
  /-- So every line is one line if all names are identifiers, and only then. -/
  oneLine_iff : (∀ line ∈ lines, OneLine line) ↔ ∀ n ∈ names, Identifier n

theorem breaksAtIcons_of_widget {i : Int} {e : Element} {c : Content} {l : Layout}
    (hc : e.content.result = .ok c) (hl : (elementWidget i e).result = .ok l) :
    BreaksAtIcons (iconNames c) (lines 0 l) := by
  have hnames := iconName_of_mem_iconNames hc
  have hbreaks := flatMap_lineBreaks_widget hc hl
  refine ⟨fun n hn => iconName_iff.mp (hnames n hn), hbreaks, ?_⟩
  have hlines : (∀ line ∈ lines 0 l, OneLine line) ↔ (lines 0 l).flatMap lineBreaks = [] := by
    simp only [List.flatMap_eq_nil_iff, lineBreaks_eq_nil_iff]
  have hidentifier : (iconNames c).flatMap lineBreaks = [] ↔ ∀ n ∈ iconNames c, Identifier n := by
    simp only [List.flatMap_eq_nil_iff, lineBreaks_eq_nil_iff]
    refine forall₂_congr fun n hn => ⟨fun h => ?_, Identifier.oneLine⟩
    rw [identifier_iff, ← dropBreak_of_oneLine h]
    exact hnames n hn
  rw [hlines, hbreaks, hidentifier]

/-- With an identifier to stand in for other names, a value becomes an identifier or keeps the line
break behind one, and the lines of a widget have no line breaks but those. -/
theorem resolves_and_breaks_at_icons (fallback : String) (i : Int) (e : Element) :
    (Identifier fallback → Resolves fallback (Icon.resolve fallback)) ∧
      ∀ l, (elementWidget i e).result = .ok l →
        ∃ c, e.content.result = .ok c ∧ BreaksAtIcons (iconNames c) (lines 0 l) := by
  refine ⟨resolves, fun l hl => ?_⟩
  obtain ⟨c, hc, -⟩ := exists_content hl
  exact ⟨c, hc, breaksAtIcons_of_widget hc hl⟩

/-! ## An icon -/

/-- An icon with a name. -/
def iconElement (name : String) : Element :=
  ⟨"icon", .icon, 20, 50, 50, 50, [("name", .text name)]⟩

theorem exists_iconWidget (name : String) :
    ∃ c l, (iconElement name).content.result = .ok c ∧
      (elementWidget 0 (iconElement name)).result = .ok l ∧
      iconNames c = [Icon.resolve Icon.standard (.text name)] := by
  obtain ⟨color, hc⟩ : ∃ color, (iconElement name).content.result =
      .ok (.icon ⟨Icon.resolve Icon.standard (.text name), color, .int 24⟩) := ⟨_, rfl⟩
  exact ⟨_, _, hc, Element.result_elementWidget hc 0, rfl⟩

theorem identifier_home : Identifier "home" := identifier_iff.mpr rfl

/-- The name of a house is kept, and every line of its widget is one line. -/
theorem breaks_of_home :
    Icon.resolve "star" (.text "home") = "home" ∧
      ∃ l, (elementWidget 0 (iconElement "home")).result = .ok l ∧
        ∀ line ∈ lines 0 l, OneLine line := by
  have hstar : Identifier "star" := identifier_iff.mpr rfl
  obtain ⟨c, l, hc, hl, hnames⟩ := exists_iconWidget "home"
  obtain ⟨hresolves, hwidget⟩ := resolves_and_breaks_at_icons "star" 0 (iconElement "home")
  obtain ⟨c', hc', hbreaks⟩ := hwidget l hl
  obtain rfl := Except.ok.inj (hc.symm.trans hc')
  have hkept : Icon.resolve Icon.standard (.text "home") = "home" :=
    (hresolves hstar).kept "home" identifier_home
  refine ⟨hkept, l, hl, hbreaks.oneLine_iff.mpr ?_⟩
  rw [hnames, hkept]
  exact List.forall_mem_singleton.mpr identifier_home

/-- With a line break behind it the name is kept too, and stands on two lines in its widget. -/
theorem line_break_of_home :
    Icon.resolve "star" (.text "home\n") = "home\n" ∧ ¬Identifier "home\n" ∧
      ∃ l, (elementWidget 0 (iconElement "home\n")).result = .ok l ∧
        ∃ line ∈ lines 0 l, ¬OneLine line := by
  have hnot : ¬Identifier "home\n" := not_identifier_break "home"
  have hkept : Icon.resolve Icon.standard (.text "home\n") = "home\n" :=
    resolve_of_iconName Icon.standard (iconName_iff.mpr ⟨"home", identifier_home, .inr rfl⟩)
  obtain ⟨c, l, hc, hl, hnames⟩ := exists_iconWidget "home\n"
  refine ⟨hkept, hnot, l, hl, ?_⟩
  by_contra! hall
  have hidentifier := (breaksAtIcons_of_widget hc hl).oneLine_iff.mp hall
  rw [hnames, hkept, List.forall_mem_singleton] at hidentifier
  exact hnot hidentifier

end ScreenDesign.Dart
