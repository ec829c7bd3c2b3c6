import ScreenDesign.Proofs.Dart.Numbers
import ScreenDesign.Proofs.Measures
import ScreenDesign.Proofs.Preview.Sights
import ScreenDesign.Proofs.Tints

/-!
# What styles say

The pictures of contents draw on few kinds of texts for their styles: fixed ones, colors, lines
around boxes, lengths and the shadow of a card (`StyleText`).  The colors are those of the theme and
of the content (`Content.colors`), and the lengths are those of the content (`Content.measures`).

Each kind of content is a case of `styled_of_content`.  What holds for all such texts then holds in
each style of a picture, for example that it is tinted by certain colors or that its lengths are
finite.  The properties that the colors and the lengths have are the parameters `P` and `R`.
-/

namespace ScreenDesign

/-- The lengths in the styles of a content. -/
def Content.measures : Content → List Number
  | .card c => c.elevation.double :: lengths (.card c)
  | .grid g => if g.showHeader then g.table.columns.map Column.width else []
  | c => c.lengths

/-- A text without a color, whose lengths are whole numbers. -/
def Fixed (s : String) : Prop :=
  '#' ∉ s.toList ∧ ∀ word ∈ words s.toList, pixels <:+ word →
    word = (Numeral.ofDigits (word.takeWhile Char.isDigit)).repr.toList ++ pixels

instance : DecidablePred Fixed := fun _ => inferInstanceAs (Decidable (_ ∧ _))

/-- What a declaration can say, if its colors have one property and its lengths another. -/
inductive StyleText (P : Color → Prop) (R : Number → Prop) : String → Prop where
  | fixed {s : String} (h : Fixed s) : StyleText P R s
  | hex {c : Color} (h : P c) : StyleText P R c.hex
  /-- A line around a box. -/
  | solid {width : String} {c : Color} (hwidth : Fixed width) (h : P c) :
      StyleText P R (Paint.solid width c)
  | dashed {c : Color} (h : P c) : StyleText P R (Paint.dashed c)
  | px {n : Number} (h : R n) : StyleText P R n.px
  /-- A shadow, which is blurred over twice its distance. -/
  | shadow {n : Number} (h : R n) (hdouble : R n.double) :
      StyleText P R ("0 " ++ n.px ++ " " ++ n.double.px ++ " rgba(0, 0, 0, 0.1)")

/-- The values of a style are such texts. -/
def StyledBag (P : Color → Prop) (R : Number → Prop) (style : Bag) : Prop :=
  ∀ d ∈ style, StyleText P R d.2.shown

namespace Node

/-- The styles of a node and of all below it say such texts. -/
def Styled (P : Color → Prop) (R : Number → Prop) (n : Node) : Prop :=
  ∀ m ∈ n.walk, StyledBag P R m.style

/-- The styles of nodes and of all below them say such texts. -/
def StyledAll (P : Color → Prop) (R : Number → Prop) (ns : List Node) : Prop :=
  ∀ n ∈ ns, Styled P R n

end Node

namespace Paint

open Node

variable {P : Color → Prop} {R : Number → Prop}

attribute [local simp] StyleText.hex StyleText.px StyleText.solid StyleText.dashed

/-! ## Styles -/

/-- Declarations with styled values. -/
def StyledDeclarations (P : Color → Prop) (R : Number → Prop)
    (declarations : List (String × String)) : Prop :=
  ∀ d ∈ declarations, StyleText P R d.2

section

variable {declarations more : List (String × String)} {bag rest : Bag}

@[simp] theorem styledDeclarations_nil : StyledDeclarations P R [] := nofun

@[simp] theorem styledDeclarations_cons {d : String × String} :
    StyledDeclarations P R (d :: more) ↔ StyleText P R d.2 ∧ StyledDeclarations P R more :=
  List.forall_mem_cons

@[simp] theorem styledDeclarations_append :
    StyledDeclarations P R (declarations ++ more) ↔
      StyledDeclarations P R declarations ∧ StyledDeclarations P R more :=
  List.forall_mem_append

@[simp] theorem styledBag_nil : StyledBag P R [] := nofun

@[simp] theorem styledBag_append :
    StyledBag P R (bag ++ rest) ↔ StyledBag P R bag ∧ StyledBag P R rest :=
  List.forall_mem_append

@[simp] theorem styledBag_style :
    StyledBag P R (style declarations) ↔ StyledDeclarations P R declarations :=
  List.forall_mem_map

end

@[simp] theorem styledDeclarations_fill : StyledDeclarations P R fill := by
  simp +decide [fill, StyleText.fixed]

@[simp] theorem styledDeclarations_downward : StyledDeclarations P R downward := by
  simp +decide [downward, StyleText.fixed]

@[simp] theorem styledBag_dimmed (disabled : Bool) : StyledBag P R (dimmed disabled) := by
  cases disabled with
  | false => exact nofun
  | true =>
      have hshown : (Json.float (Binary64.ofDecimal false 6 (-1))).shown = "0.6" := by
        decide +kernel
      refine List.forall_mem_singleton.mpr ?_
      rw [hshown]
      exact .fixed (by decide)

/-! ## Nodes -/

section

variable (tag : String) (declarations : List (String × String)) (bag attrs : Bag)
  (children : List Node) (s : String)

theorem styled_mk (text : Option String) :
    Styled P R (.mk tag bag text attrs children) ↔ StyledBag P R bag ∧ StyledAll P R children := by
  simp only [Styled, StyledAll, walk, walkAll_eq, List.forall_mem_cons, List.forall_mem_flatMap]
  rfl

@[simp] theorem styled_box :
    Styled P R (box tag bag attrs children) ↔ StyledBag P R bag ∧ StyledAll P R children :=
  styled_mk ..

@[simp] theorem styledAll_nil : StyledAll P R [] := nofun

@[simp] theorem styledAll_cons (n : Node) (ns : List Node) :
    StyledAll P R (n :: ns) ↔ Styled P R n ∧ StyledAll P R ns :=
  List.forall_mem_cons

@[simp] theorem styledAll_append (ns ms : List Node) :
    StyledAll P R (ns ++ ms) ↔ StyledAll P R ns ∧ StyledAll P R ms :=
  List.forall_mem_append

theorem styledAll_map {α : Type} {f : α → Node} (h : ∀ a, Styled P R (f a)) (as : List α) :
    StyledAll P R (as.map f) :=
  List.forall_mem_map.mpr fun a _ => h a

@[simp] theorem styled_text :
    Styled P R (text s declarations) ↔ StyledDeclarations P R declarations := by
  simp [text, styled_mk]

@[simp] theorem styled_icon :
    Styled P R (icon s declarations) ↔ StyledDeclarations P R declarations := by
  simp [icon, styled_mk]

end

variable {theme : Theme} (htheme : ∀ c ∈ theme.colors, P c)

include htheme

attribute [local simp] StyleText.fixed

theorem forall_colors : P theme.canvas ∧ P theme.surface ∧ P theme.text ∧ P theme.heading ∧
    P theme.muted ∧ P theme.border ∧ P theme.placeholder ∧ P theme.outline ∧ P theme.unchecked ∧
    P theme.error ∧ P theme.onAccent := by
  simpa [Theme.colors] using htheme

theorem styled_label (s : String) {color : Color} (required : Bool) (h : P color) :
    Styled P R (label theme s color required) := by
  cases required <;> simp +decide [label, styled_mk, requiredMark, h, forall_colors htheme]

theorem styledAll_plainLabel (s : String) (required : Bool) :
    StyledAll P R (plainLabel theme s required) := by
  have htext : P theme.text := (forall_colors htheme).2.2.1
  rw [plainLabel]
  split
  · exact styledAll_nil
  · simp [styled_label htheme s required htext]

/-! ## Controls -/

omit htheme in
theorem styled_button {b : Content.Button} (h : ∀ c ∈ b.colors, P c) (hpadding : R b.padding) :
    Styled P R (button b) := by
  have hcolors : StyledDeclarations P R (buttonColors b) := by
    rw [Content.Button.colors] at h
    rw [buttonColors]
    cases hlook : b.look <;> simp_all +decide
  have hradius : StyleText P R (if b.rounded then "9999px" else "6px") := by
    split <;> simp +decide
  cases htarget : b.target <;> simp +decide [button, chevron, hcolors, hradius, htarget, hpadding]

theorem styled_textField (f : Content.TextField) : Styled P R (textField theme f) := by
  cases hicon : f.icon <;> cases hcomplaint : f.complaint <;>
    simp +decide [textField, textFieldBox, hicon, hcomplaint, styledAll_plainLabel htheme,
      forall_colors htheme]

theorem styled_control {c : Control} (h : ∀ color ∈ c.colors, P color) :
    Styled P R (control theme c) := by
  cases c with
  | toggle on disabled active inactive =>
      cases on <;> simp_all +decide [control, thumb, Control.colors, forall_colors htheme]
  | checkbox on disabled active =>
      cases on <;> simp_all +decide [control, checkmark, Control.colors, forall_colors htheme]
  | radio on disabled active group =>
      cases on <;> simp_all +decide [control, dot, Control.colors, forall_colors htheme]

theorem styled_centered {c : Control} (label : String) (attrs : Bag)
    (h : ∀ color ∈ c.colors, P color) : Styled P R (centered theme c label attrs) := by
  simp +decide [centered, styled_control htheme h, styledAll_plainLabel htheme]

theorem styled_labeled {l : Content.Labeled} (h : ∀ c ∈ l.labelColor :: l.control.colors, P c) :
    Styled P R (labeled theme l) := by
  obtain ⟨hlabel, hcontrol⟩ := List.forall_mem_cons.mp h
  cases hfirst : l.labelFirst <;>
    simp +decide [labeled, hfirst, styled_control htheme hcontrol,
      styled_label htheme l.label false hlabel]

/-! ## Inputs and chats -/

theorem styled_dropdown {d : Content.Dropdown}
    (h : ∀ c ∈ [d.borderColor, d.backgroundColor], P c) : Styled P R (dropdown theme d) := by
  have hoption : ∀ label value, Styled P R (option label value) := by
    simp [option, styled_mk]
  have hoptions : StyledAll P R (options d) := by
    rw [options]
    split <;> simp [hoption, styledAll_map]
  simp_all +decide [dropdown, styledAll_plainLabel htheme, forall_colors htheme]

theorem styled_input {i : Content.Input} (h : ∀ c ∈ [i.borderColor, i.labelColor], P c) :
    Styled P R (input theme i) := by
  have hlabel : P i.labelColor := h _ (by simp)
  simp_all +decide [input, styled_label htheme i.label i.required hlabel, forall_colors htheme]

theorem styled_composer {c : Content.Composer}
    (h : ∀ color ∈ [c.buttonColor, c.buttonColor.contrast], P color) :
    Styled P R (composer theme c) := by
  simp_all +decide [composer, forall_colors htheme]

theorem styled_message {m : Content.Message} (h : ∀ c ∈ Content.colors (.message m), P c) :
    Styled P R (message theme m) := by
  rw [Content.colors] at h
  have hbubble : Styled P R (bubble theme m) := by
    cases htimestamp : m.timestamp <;>
      simp_all +decide [bubble, caption, forall_colors htheme]
  cases havatar : m.avatar <;> cases hown : m.isOwn <;>
    simp_all +decide [message, avatar]

/-! ## Surfaces -/

omit htheme in
theorem px?_eq_ok {n : Number} {s : String} (h : n.px? = .ok s) : s = n.px := by
  cases n with
  | int i =>
      rw [Number.px?] at h
      split at h
      · cases h
      · exact (Except.ok.inj h).symm
  | float x => exact (Except.ok.inj h).symm

omit htheme in
theorem styleText_shadow {elevation : Number} {s : String} (h : shadow elevation = .ok s)
    (hlength : R elevation) (hdouble : R elevation.double) : StyleText P R s := by
  obtain ⟨blur, hblur, rfl⟩ := map_eq_ok.mp h
  obtain rfl := px?_eq_ok hblur
  exact .shadow hlength hdouble

theorem styled_card {c : Content.Card} {n : Node} (h : card theme c = .ok n) (hcolor : P c.color)
    (hlengths : ∀ n ∈ Content.measures (.card c), R n) : Styled P R n := by
  obtain ⟨shadow, hshadow, rfl⟩ := map_eq_ok.mp h
  simp only [Content.measures, Content.lengths, List.cons_append, List.forall_mem_cons,
    List.nil_append] at hlengths
  obtain ⟨hdouble, helevation, hradius, hpadding, himages⟩ := hlengths
  have hshadow : StyleText P R shadow := styleText_shadow hshadow helevation hdouble
  cases himage : c.imageHeight <;> cases hsubtitle : c.subtitle.isEmpty <;>
    simp_all +decide [cardWith, image, forall_colors htheme]

theorem styled_tile {l : Content.Listing} (t : Tile) (h : l.horizontal = false → R l.itemHeight) :
    Styled P R (tile theme l t) := by
  cases hhorizontal : l.horizontal <;>
    simp_all +decide [tile, caption, forall_colors htheme]

theorem styled_listing {l : Content.Listing} (h : ∀ n ∈ Content.measures (.list l), R n) :
    Styled P R (listing theme l) := by
  have htiles : StyledAll P R (l.tiles.map (tile theme l)) := by
    refine List.forall_mem_map.mpr fun t ht => styled_tile htheme t fun hhorizontal => h _ ?_
    exact List.mem_flatMap.mpr ⟨t, ht, by simp [hhorizontal]⟩
  cases hhorizontal : l.horizontal <;> cases hscrollable : l.scrollable <;>
    simp +decide [listing, hhorizontal, hscrollable, htiles]

omit htheme in
theorem styled_glyph {g : Content.Glyph} (h : P g.color) : Styled P R (glyph g) := by
  simp +decide [glyph, styled_mk, h]

theorem styled_container {c : Content.Container} (h : P c.color)
    (hlengths : ∀ n ∈ Content.measures (.container c), R n) : Styled P R (container theme c) := by
  simp only [Content.measures, Content.lengths, List.forall_mem_cons] at hlengths
  simp +decide [container, h, hlengths, forall_colors htheme]

/-! ## Rows, columns and stacks -/

theorem styled_flex {f : Content.Flex} (hpadding : R f.padding) : Styled P R (flex theme f) := by
  have hname : StyleText P R (directionName f.direction) :=
    .fixed (by cases f.direction <;> decide)
  have hmain : StyleText P R (justify f.main) := .fixed (by cases f.main <;> decide)
  have hcross : StyleText P R (alignItems f.cross) := .fixed (by cases f.cross <;> decide)
  have hblock : Styled P R (block theme f.direction) := by
    cases f.direction <;> simp +decide [block, forall_colors htheme]
  simp +decide [flex, List.replicate, hname, hmain, hcross, hblock, hpadding, forall_colors htheme]

omit htheme in
/-- A layer lies on its anchor or ten pixels from it. -/
theorem styledDeclarations_layerStyle (anchor : Anchor) {inset : Nat} (h : inset ∈ [0, 10]) :
    StyledDeclarations P R (layerStyle anchor inset) := by
  have hfixed : ∀ inset ∈ [0, 10], ∀ d ∈ layerStyle anchor inset, Fixed d.2 := by
    cases anchor <;> decide
  exact fun d hd => .fixed (hfixed inset h d hd)

theorem styled_stack {s : Content.Stack} (hpadding : R s.padding) :
    Styled P R (stack theme s) := by
  simp +decide [stack, layer, styledDeclarations_layerStyle, hpadding, forall_colors htheme]

/-! ## Tables -/

theorem styled_bodyRow {g : Content.Grid} (hborder : StyledDeclarations P R (cellBorder g))
    (position : Nat) (row : Row) (h : ∀ c ∈ g.stripe? position, P c) :
    Styled P R (bodyRow theme g position row) := by
  have hcells : StyledAll P R (g.table.columns.map (bodyCell theme g row)) := by
    refine styledAll_map (fun c => ?_) _
    simp [bodyCell, styled_mk, hborder, forall_colors htheme]
  have hcolor : P ((g.stripe? position).getD theme.surface) := by
    cases hstripe : g.stripe? position with
    | none => exact (forall_colors htheme).2.1
    | some c => exact h c (by simp [hstripe])
  simp [bodyRow, hcells, hcolor]

theorem styled_grid {g : Content.Grid} (h : ∀ c ∈ g.colors, P c)
    (hwidths : ∀ n ∈ Content.measures (.grid g), R n) : Styled P R (grid theme g) := by
  simp only [Content.Grid.colors, List.forall_mem_append] at h
  obtain ⟨hheader, hborder, hrows⟩ := h
  have hborder : StyledDeclarations P R (cellBorder g) := by
    cases hshown : g.showBorder <;> simp_all +decide [cellBorder]
  have hbody : StyledAll P R (g.table.rows.mapIdx (bodyRow theme g)) := by
    intro n hn
    obtain ⟨i, hi, rfl⟩ := List.mem_mapIdx.mp hn
    refine styled_bodyRow htheme hborder i _ fun c hc => hrows c ?_
    exact List.mem_flatten.mpr ⟨_, List.mem_mapIdx.mpr ⟨i, hi, rfl⟩, by simpa using hc⟩
  have hhead (hshown : g.showHeader = true) :
      StyledAll P R (g.table.columns.map (headCell theme g)) := by
    rw [Content.measures, if_pos hshown, List.forall_mem_map] at hwidths
    refine List.forall_mem_map.mpr fun c hc => ?_
    simp [headCell, styled_mk, hborder, hwidths c hc, forall_colors htheme]
  have hrows : StyledAll P R (tableRows theme g) := by
    cases hshown : g.showHeader <;> simp_all [tableRows]
  cases htitle : g.title.isEmpty <;> cases hshown : g.showBorder <;>
    simp +decide [grid, htitle, hshown, hrows, forall_colors htheme]

/-! ## Everything -/

/-- The styles of the picture of a content say what such texts can say, with the colors of the theme
and of the content and with the lengths of the content. -/
theorem styled_of_content {c : Content} {n : Node} (h : content theme c = .ok n)
    (hcolors : ∀ color ∈ c.colors, P color) (hlengths : ∀ m ∈ c.measures, R m) : Styled P R n := by
  cases c with
  | card c => exact styled_card htheme h (hcolors _ List.mem_cons_self) hlengths
  | button b => cases h; exact styled_button hcolors (hlengths _ List.mem_cons_self)
  | textField f => cases h; exact styled_textField htheme f
  | list l => cases h; exact styled_listing htheme hlengths
  | icon g => cases h; exact styled_glyph (hcolors _ List.mem_cons_self)
  | container c => cases h; exact styled_container htheme (hcolors _ List.mem_cons_self) hlengths
  | flex f => cases h; exact styled_flex htheme (hlengths _ List.mem_cons_self)
  | stack s => cases h; exact styled_stack htheme (hlengths _ List.mem_cons_self)
  | choosable c => cases h; exact styled_centered htheme c.label _ hcolors
  | control c => cases h; exact styled_centered htheme "" [] hcolors
  | labeled l => cases h; exact styled_labeled htheme hcolors
  | composer c => cases h; exact styled_composer htheme hcolors
  | message m => cases h; exact styled_message htheme hcolors
  | dropdown d => cases h; exact styled_dropdown htheme hcolors
  | input i => cases h; exact styled_input htheme hcolors
  | grid g => cases h; exact styled_grid htheme hcolors hlengths

end Paint

end ScreenDesign
