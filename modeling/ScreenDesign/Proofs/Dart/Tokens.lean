import ScreenDesign.Proofs.Dart.Places
import ScreenDesign.Proofs.Dart.SoundProgram
import ScreenDesign.Proofs.Sights

/-!
# Tokens of widgets

Every way of building a layout has an equation for its tokens.  With these, the
captions of a content are literals in its widget (`literal_mem_tokens`).
-/

namespace ScreenDesign.Dart

open Layout

/-! ## Layouts -/

section

variable (name key head tail before after : String) (body : List Layout)

@[simp] theorem tokens_wrap (before after : List Token) (l : Layout) :
    (l.wrap before after).tokens = before ++ (l.tokens ++ after) := by
  cases l <;> simp [wrap]

@[simp] theorem tokens_row : (row name).tokens = [.code name] := tokens_line _

@[simp] theorem tokens_call :
    (call name body).tokens = .code (name ++ "(") :: (body.flatMap tokens ++ [.code ")"]) :=
  tokens_block ..

@[simp] theorem tokens_argument :
    (argument name body).tokens = .code (name ++ "(") :: (body.flatMap tokens ++ [.code "),"]) :=
  tokens_block ..

@[simp] theorem tokens_braces :
    (braces head body tail).tokens =
      .code (head ++ "\x7b") :: (body.flatMap tokens ++ [.code ("\x7d" ++ tail)]) :=
  tokens_block ..

@[simp] theorem tokens_brackets :
    (brackets key body).tokens = .code (key ++ ": [") :: (body.flatMap tokens ++ [.code "],"]) :=
  tokens_block ..

@[simp] theorem tokens_attach (l : Layout) :
    (attach key l).tokens = .code (key ++ ": ") :: (l.tokens ++ [.code ","]) := tokens_wrap ..

@[simp] theorem tokens_children :
    (children body).tokens =
      .code "children: [" :: (body.flatMap (fun l => l.tokens ++ [.code ","]) ++ [.code "],"]) := by
  simp [children, List.flatMap_map]

@[simp] theorem tokens_textRow (s : String) :
    (textRow before s after).tokens = [.code before, .literal s, .code after] := tokens_line _

@[simp] theorem tokens_colorRow (c : Color) :
    (colorRow before c after).tokens = [.code before, .color c, .code after] := tokens_line _

end

/-- Neighbouring tokens of the widget of an element stand in code. -/
theorem inCode_of_mem_rows {index : Int} {e : Element} {l : Layout}
    (h : (elementWidget index e).result = .ok l) {row tokens : List Token} (hrow : row ∈ l.rows)
    (htokens : tokens <:+: row) (hne : tokens ≠ []) : InCode (sourceText [l]) (rowText tokens) := by
  have hrows : rowsAll [l] = l.rows := List.append_nil _
  have hsound := sound_elementWidget h
  refine inCode_of_infix ?_ (hrows ▸ hrow) (hsound.fits _ hrow).fit htokens hne
  rw [hrows]
  exact fun r hr => (hsound.fits r hr).allowed

/-- A token of the widget of an element stands in code. -/
theorem inCode_of_mem_tokens {index : Int} {e : Element} {l : Layout}
    (h : (elementWidget index e).result = .ok l) {t : Token} (ht : t ∈ l.tokens) :
    InCode (sourceText [l]) t.text := by
  obtain ⟨row, hrow, ht⟩ := List.mem_flatten.mp ht
  obtain ⟨left, right, hsplit⟩ := List.append_of_mem ht
  have htoken : [t] <:+: row := ⟨left, right, by simp [hsplit]⟩
  simpa [rowText, rowChars] using inCode_of_mem_rows h hrow htoken (List.cons_ne_nil t [])

/-! ## Captions -/

@[simp] theorem mem_captionOf {s t : String} {required : Bool} :
    t ∈ Content.captionOf s required ↔ s.isEmpty = false ∧ t = marked s required := by
  rw [Content.captionOf]
  cases s.isEmpty <;> simp

theorem literal_mem_button {b : Content.Button} {l : Layout} (h : button b = .ok l) :
    Token.literal b.text ∈ l.tokens := by
  obtain ⟨padding, -, rfl⟩ := map_eq_ok.mp h
  cases b.look <;> simp [filledButton, buttonLabel]

theorem literal_mem_textField (f : Content.TextField) {s : String}
    (hs : s ∈ Content.captions (.textField f)) : Token.literal s ∈ (textField f).tokens := by
  simp only [Content.captions, List.mem_append, mem_captionOf, List.mem_cons,
    Option.mem_toList] at hs
  rcases hs with ⟨hlabel, rfl⟩ | rfl | hcomplaint
  · simp [textField, hlabel, marked]
  · simp [textField]
  · simp [textField, hcomplaint]

/-- The layout of a card, with what is above its texts. -/
theorem card_eq_ok {c : Content.Card} {l : Layout} (h : card c = .ok l) :
    ∃ top elevation radius padding, l = call "Card"
      [elevation, colorRow "color: " c.color ",", row "clipBehavior: Clip.antiAlias,",
       argument "shape: RoundedRectangleBorder" [radius],
       argument "child: Padding"
        [padding,
         argument "child: Column"
          [row "crossAxisAlignment: CrossAxisAlignment.start,",
            children (top ++ cardTexts c)]]] := by
  rw [card] at h
  cases himage : c.imageHeight <;> rw [himage] at h
  all_goals
    obtain ⟨top, -, h⟩ := bind_eq_ok.mp h
    obtain ⟨elevation, -, h⟩ := bind_eq_ok.mp h
    obtain ⟨radius, -, h⟩ := bind_eq_ok.mp h
    obtain ⟨padding, -, h⟩ := bind_eq_ok.mp h
    cases h
    exact ⟨top, elevation, radius, padding, rfl⟩

theorem literal_mem_card {c : Content.Card} {l : Layout} (h : card c = .ok l) {s : String}
    (hs : s ∈ Content.captions (.card c)) : Token.literal s ∈ l.tokens := by
  obtain ⟨top, elevation, radius, padding, rfl⟩ := card_eq_ok h
  simp only [Content.captions, List.mem_cons, List.mem_append, mem_captionOf, List.not_mem_nil,
    or_false] at hs
  rcases hs with rfl | ⟨hsubtitle, rfl⟩ | rfl
  · simp [cardTexts]
  · simp [cardTexts, hsubtitle, marked]
  · simp [cardTexts]

theorem literal_mem_tile {l : Content.Listing} {t : Tile} {layout : Layout}
    (h : tile l t = .ok layout) :
    Token.literal t.title ∈ layout.tokens ∧ Token.literal t.subtitle ∈ layout.tokens := by
  obtain ⟨extent, -, rfl⟩ := map_eq_ok.mp h
  simp

theorem literal_mem_listing {l : Content.Listing} {layout : Layout} (h : listing l = .ok layout)
    {s : String} (hs : s ∈ Content.captions (.list l)) : Token.literal s ∈ layout.tokens := by
  obtain ⟨tiles, htiles, rfl⟩ := map_eq_ok.mp h
  obtain ⟨t, ht, hs⟩ := List.mem_flatMap.mp hs
  obtain ⟨tile, htile, hlayout⟩ := exists_mem_mapM htiles ht
  obtain ⟨htitle, hsubtitle⟩ := literal_mem_tile hlayout
  have hs : Token.literal s ∈ tile.tokens := by
    simp only [List.mem_cons, List.not_mem_nil, or_false] at hs
    rcases hs with rfl | rfl
    · exact htitle
    · exact hsubtitle
  simp only [tokens_call, List.flatMap_append, List.flatMap_singleton, tokens_children,
    List.mem_cons, List.mem_append, List.mem_flatMap]
  exact .inr (.inl (.inr (.inr (.inl ⟨tile, htile, .inl hs⟩))))

theorem literal_mem_choosable (c : Content.Choosable) (index : Int) {s : String}
    (hs : s ∈ Content.captions (.choosable c)) : Token.literal s ∈ (choosable c index).tokens := by
  simp only [Content.captions, mem_captionOf] at hs
  obtain ⟨hlabel, rfl⟩ := hs
  simp [choosable, withLabel, hlabel, marked]

theorem literal_mem_labeled (l : Content.Labeled) : Token.literal l.label ∈ (labeled l).tokens := by
  cases hfirst : l.labelFirst <;> simp [labeled, hfirst]

theorem literal_mem_composer (c : Content.Composer) {s : String}
    (hs : s ∈ Content.captions (.composer c)) : Token.literal s ∈ (composer c).tokens := by
  simp only [Content.captions, List.mem_cons, List.not_mem_nil, or_false] at hs
  rcases hs with rfl | rfl <;> simp [composer]

theorem literal_mem_message (m : Content.Message) {s : String}
    (hs : s ∈ Content.captions (.message m)) : Token.literal s ∈ (message m).tokens := by
  have hcolumn : Token.literal s ∈ (messageColumn m).tokens := by
    simp only [Content.captions, List.mem_cons] at hs
    rcases hs with rfl | hs
    · simp [messageColumn, bubble]
    · split at hs
      · rename_i htimestamp
        rw [List.mem_singleton.mp hs]
        simp [messageColumn, htimestamp]
      · cases hs
  cases havatar : m.avatar <;> cases hown : m.isOwn <;>
    simp [message, havatar, hown, hcolumn]

theorem literal_mem_dropdown (d : Content.Dropdown) (index : Int) {s : String}
    (hs : s ∈ Content.captions (.dropdown d)) : Token.literal s ∈ (dropdown d index).tokens := by
  simp only [Content.captions, mem_captionOf] at hs
  obtain ⟨hlabel, rfl⟩ := hs
  simp [dropdown, hlabel]

theorem literal_mem_input (i : Content.Input) :
    Token.literal (marked i.label i.required) ∈ (input i).tokens := by
  simp [input]

theorem literal_mem_grid (g : Content.Grid) {s : String}
    (hs : s ∈ Content.captions (.grid g)) : Token.literal s ∈ (grid g).tokens := by
  simp only [Content.captions, mem_captionOf] at hs
  obtain ⟨htitle, rfl⟩ := hs
  simp [grid, gridTitle, htitle, marked]

/-- The captions of a content are literals in its widget. -/
theorem literal_mem_tokens {index : Int} {c : Content} {l : Layout} (h : widget index c = .ok l)
    {s : String} (hs : s ∈ c.captions) : Token.literal s ∈ l.tokens := by
  cases c with
  | button b =>
      rw [List.mem_singleton.mp hs]
      exact literal_mem_button h
  | textField f => cases h; exact literal_mem_textField f hs
  | card c => exact literal_mem_card h hs
  | list l => exact literal_mem_listing h hs
  | choosable c => cases h; exact literal_mem_choosable c index hs
  | labeled l => cases h; rw [List.mem_singleton.mp hs]; exact literal_mem_labeled l
  | composer c => cases h; exact literal_mem_composer c hs
  | message m => cases h; exact literal_mem_message m hs
  | dropdown d => cases h; exact literal_mem_dropdown d index hs
  | input i => cases h; rw [List.mem_singleton.mp hs]; exact literal_mem_input i
  | grid g => cases h; exact literal_mem_grid g hs
  | icon | container | flex | stack | control => cases hs

end ScreenDesign.Dart
