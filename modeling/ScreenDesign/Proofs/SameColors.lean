import ScreenDesign.Proofs.Dart.Tints
import ScreenDesign.Proofs.Preview.Tints
import ScreenDesign.Proofs.Recoloring

/-!
# Preview and program have the same colors

Every color in the preview of an element that is in neither theme stands in its widget
too, and the rules for colors are the same on both sides (`Element.same_colors`): the
text on a filled button, the default in the place of a blank color, and black in the
place of a malformed one.
-/

namespace ScreenDesign

open Dart (InCode elementWidget sourceText)

/-! ## Filled buttons -/

/-- A button of a preview with a surface of some color, and the same in source text.  The
text on the surface has the color that contrasts with it. -/
def HasSurface (n : Node) (source : String) (c : Color) : Prop :=
  (∃ m ∈ n.walk, m.tag = "button" ∧ m.style.get? "backgroundColor" = some (.text c.hex) ∧
    m.style.get? "color" = some (.text c.contrast.hex)) ∧
  InCode source ("backgroundColor: " ++ Dart.color c ++ ",") ∧
  InCode source ("foregroundColor: " ++ Dart.color c.contrast ++ ",")

theorem Node.mem_walk_self (n : Node) : n ∈ n.walk := by
  cases n
  exact List.mem_cons_self

namespace Paint

theorem surface_of_button {b : Content.Button} (h : b.look = .filled) :
    (button b).style.get? "backgroundColor" = some (.text b.color.hex) ∧
      (button b).style.get? "color" = some (.text b.color.contrast.hex) := by
  simp [button, box, Node.style, style, fill, buttonColors, h, Entries.get?]

/-- The button of a composer, behind the field with the placeholder. -/
theorem exists_button_of_composer (theme : Theme) (c : Content.Composer) :
    ∃ m ∈ (composer theme c).walk, m.tag = "button" ∧
      m.style.get? "backgroundColor" = some (.text c.buttonColor.hex) ∧
      m.style.get? "color" = some (.text c.buttonColor.contrast.hex) := by
  refine ⟨box "button"
    (style [("borderRadius", "6px"), ("backgroundColor", c.buttonColor.hex),
      ("color", c.buttonColor.contrast.hex)]) [] [text c.buttonText []], ?_, rfl, ?_, ?_⟩
  · simp [composer, box, Node.walk, Node.walkAll]
  · simp [box, Node.style, style, Entries.get?]
  · simp [box, Node.style, style, Entries.get?]

end Paint

section

variable {e : Element} {l : Dart.Layout} {index : Int}

theorem hasSurface_button (hl : (elementWidget index e).result = .ok l) {b : Content.Button}
    (hlook : b.look = .filled) (hwidget : Dart.widget index (.button b) = .ok l) :
    HasSurface (Paint.button b) (sourceText [l]) b.color := by
  obtain ⟨hbackground, hforeground⟩ := Dart.surface_mem_button hwidget hlook
  exact ⟨⟨Paint.button b, Node.mem_walk_self _, rfl, Paint.surface_of_button hlook⟩,
    Dart.inCode_of_colorArgument hl hbackground, Dart.inCode_of_colorArgument hl hforeground⟩

theorem hasSurface_composer (hl : (elementWidget index e).result = .ok l) (theme : Theme)
    {c : Content.Composer} (hwidget : Dart.widget index (.composer c) = .ok l) :
    HasSurface (Paint.composer theme c) (sourceText [l]) c.buttonColor := by
  obtain rfl : Dart.composer c = l := Except.ok.inj hwidget
  obtain ⟨hbackground, hforeground⟩ := Dart.surface_mem_composer c
  exact ⟨Paint.exists_button_of_composer theme c, Dart.inCode_of_colorArgument hl hbackground,
    Dart.inCode_of_colorArgument hl hforeground⟩

end

/-! ## The same colors -/

/-- An element with a record, and its preview and widget, with the same colors. -/
structure ColorsAgree (e : Element) (dark : Bool) (index : Int) (r : Record) (n : Node)
    (l : Dart.Layout) : Prop where
  /-- Six characters behind a `#` in a style are the digits of a color of a theme, or of
  a color in the source text. -/
  shown : ∀ m ∈ n.walk, ∀ d ∈ m.style, ∀ ds, ds.length = 6 → '#' :: ds <:+: d.2.shown.toList →
    (∃ c ∈ Theme.palette, c.digits = ds) ∨
      InCode (sourceText [l]) ("Color(0xFF" ++ String.ofList ds ++ ")")
  /-- A filled button has its color, and text that contrasts with it. -/
  button : e.type = .button → r.text "variant" ∉ ["outline", "secondary"] →
    HasSurface n (sourceText [l]) (r.color "color")
  /-- So has the button of a message composer. -/
  composer : e.type = .chatInput → HasSurface n (sourceText [l]) (r.color "buttonColor")
  /-- Every color field has a text. -/
  texts : ∀ f ∈ e.type.colorFields, ∃ s, (f, .text s) ∈ r.entries
  /-- With the default in the place of a blank color, an element looks the same. -/
  blank : ∀ f ∈ e.type.colorFields, ∀ s, (f, .text s) ∈ r.entries →
    (∀ c ∈ s.toList, Text.isBlank c = true) → ∃ d, f.default = .text d ∧
      ((e.withText r f.key d).preview (Theme.of dark)).result = .ok n ∧
      (elementWidget index (e.withText r f.key d)).result = .ok l
  /-- With black in the place of a malformed color, an element looks the same. -/
  malformed : ∀ f ∈ e.type.colorFields, ∀ s, (f, .text s) ∈ r.entries →
    (¬ ∀ c ∈ s.toList, Text.isBlank c = true) → Color.ofText? s = none →
      ((e.withText r f.key "#000000").preview (Theme.of dark)).result = .ok n ∧
      (elementWidget index (e.withText r f.key "#000000")).result = .ok l

theorem lookOf_of_notMem {keyword : String} (h : keyword ∉ ["outline", "secondary"]) :
    Content.lookOf keyword = .filled := by
  simp only [List.mem_cons, List.not_mem_nil, or_false, not_or] at h
  rw [Content.lookOf, if_neg h.1, if_neg h.2]

/-- Every color field of a record has a text. -/
theorem Record.WellTyped.exists_text {t : ComponentType} {r : Record} (h : r.WellTyped t)
    {f : Field} (hf : f ∈ t.colorFields) : ∃ s, (f, .text s) ∈ r.entries := by
  obtain ⟨hfield, hkind, -⟩ := Field.of_mem_colorFields hf
  rw [← h.fields] at hfield
  obtain ⟨⟨f, v⟩, hentry, rfl⟩ := List.mem_map.mp hfield
  have hholds := h.holds _ hentry
  rw [hkind] at hholds
  cases v with
  | text s => exact ⟨s, hentry⟩
  | number n => cases hholds
  | flag b => cases hholds

/-- The preview and the widget of an element have the same colors, in either theme and
whatever its property bag holds. -/
theorem Element.same_colors (dark : Bool) (index : Int) {e : Element} {n : Node} {l : Dart.Layout}
    (hn : (e.preview (Theme.of dark)).result = .ok n)
    (hl : (elementWidget index e).result = .ok l) :
    ∃ r, e.record.result = .ok r ∧ ColorsAgree e dark index r n l := by
  obtain ⟨c, hc, hwidget⟩ := Dart.exists_content hl
  have hpaint : Paint.content (Theme.of dark) c = .ok n := by
    rwa [Element.preview, Logged.result_bind, hc] at hn
  obtain ⟨r, hr, hrecord⟩ := bind_eq_ok.mp (Logged.result_bind .. ▸ hc)
  obtain ⟨bag, hread⟩ := exists_read_of_record hr
  have htyped := Record.wellTyped_of_read hread
  refine ⟨r, hr, ?_⟩
  constructor
  case shown =>
    have htinted : Node.Tinted (fun c => c ∈ Theme.palette ∨ Dart.Token.color c ∈ l.tokens) n :=
      Paint.tinted_of_content (fun c hc => .inl (Theme.colors_subset_palette dark hc)) hpaint
        fun c hc => .inr (Dart.color_mem_tokens hwidget hc)
    intro m hm d hd ds hlength hds
    obtain ⟨c, hc, rfl⟩ := (htinted m hm d hd).exists_digits hlength hds
    rcases hc with hpalette | htoken
    · exact .inl ⟨c, hpalette, rfl⟩
    · exact .inr (Dart.inCode_of_mem_tokens (t := .color c) hl htoken)
  case button =>
    intro htype hvariant
    rw [htype] at hrecord
    obtain rfl : .button (Content.buttonOf r) = c := Except.ok.inj hrecord
    obtain rfl : Paint.button (Content.buttonOf r) = n := Except.ok.inj hpaint
    exact hasSurface_button hl (lookOf_of_notMem hvariant) hwidget
  case composer =>
    intro htype
    rw [htype] at hrecord
    obtain rfl : .composer (Content.composerOf r) = c := Except.ok.inj hrecord
    obtain rfl : Paint.composer (Theme.of dark) (Content.composerOf r) = n := Except.ok.inj hpaint
    exact hasSurface_composer hl (Theme.of dark) hwidget
  case texts => exact fun f hf => htyped.exists_text hf
  case blank =>
    intro f hf s hs hblank
    obtain ⟨-, -, d, hd⟩ := Field.of_mem_colorFields hf
    obtain ⟨hpreview, hwidget⟩ :=
      same_withText hr hf hs (Field.colorOf_blank hd hblank) (Theme.of dark) index
    exact ⟨d, hd, hpreview.trans hn, hwidget.trans hl⟩
  case malformed =>
    intro f hf s hs hblank hmalformed
    obtain ⟨hpreview, hwidget⟩ :=
      same_withText hr hf hs (Field.colorOf_malformed hblank hmalformed) (Theme.of dark) index
    exact ⟨hpreview.trans hn, hwidget.trans hl⟩

/-- A switch that is on, with its colors in small letters and between blanks. -/
def tealSwitch : Element :=
  ⟨"power", .toggle, 0, 0, 60, 24,
    [("value", .bool true), ("activeColor", .text " #0a7b3c "), ("inactiveColor", .text "")]⟩

theorem same_colors_of_teal :
    ∃ n l r, (tealSwitch.preview (Theme.of false)).result = .ok n ∧
      (elementWidget 0 tealSwitch).result = .ok l ∧ tealSwitch.record.result = .ok r ∧
      ColorsAgree tealSwitch false 0 r n l ∧
      InCode (sourceText [l]) "Color(0xFF0A7B3C)" := by
  obtain ⟨n, hn, m, hm, hstyle⟩ : ∃ n, (tealSwitch.preview (Theme.of false)).result = .ok n ∧
      ∃ m ∈ n.walk, ("backgroundColor", .text "#0A7B3C") ∈ m.style := by
    refine ⟨_, rfl, _, List.mem_cons_of_mem _ List.mem_cons_self, ?_⟩
    decide +kernel
  obtain ⟨l, hl⟩ : ∃ l, (elementWidget 0 tealSwitch).result = .ok l := ⟨_, rfl⟩
  obtain ⟨r, hr, hagree⟩ := Element.same_colors false 0 hn hl
  refine ⟨n, l, r, hn, hl, hr, hagree, ?_⟩
  have hshown := hagree.shown m hm _ hstyle "0A7B3C".toList (by decide) ⟨[], [], rfl⟩
  refine hshown.resolve_left ?_
  decide +kernel

end ScreenDesign
