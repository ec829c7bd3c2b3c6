import ScreenDesign.Proofs.Dart.Skeleton
import ScreenDesign.Proofs.Dart.SoundProgram

/-!
# Programs are well formed

Whatever texts a design holds, its program scans to the end, every literal is closed
on its line, and the brackets outside literals and remarks close what they open
(`program_wellFormed`).  The lexemes are exactly those of the layout: a text that is
put in a literal or a remark is one whole lexeme.  For titles, names, ids and remarks
`ShowsTexts` says which.

No text contributes a bracket either.  Designs are alike if they differ in their
titles, names, ids, places and in the texts of their contents.  Their programs have
the same brackets in the same order.
-/

namespace ScreenDesign.Dart

open Layout

/-! ## Designs that are alike -/

/-- Elements that show the same up to their texts. -/
def SameElement (e e' : Element) : Prop :=
  ∃ c c', e.content.result = .ok c ∧ e'.content.result = .ok c' ∧ c.masked = c'.masked

/-- Screens with elements that show the same up to their texts. -/
def SameScreen (s s' : Screen) : Prop := List.Forall₂ SameElement s.elements s'.elements

/-- Designs that differ in their names, ids, places and texts only. -/
def Alike (screens screens' : List Screen) : Prop := List.Forall₂ SameScreen screens screens'

/-! ## Skeletons side by side -/

/-- Computations that give layouts with the same brackets if both succeed. -/
def SameSkeleton (x x' : Logged (List Layout)) : Prop :=
  ∀ ls ls', x.result = .ok ls → x'.result = .ok ls' → ls.flatMap skeleton = ls'.flatMap skeleton

theorem map_skeleton_of_same {xs xs' : List (Logged (List Layout))}
    (h : List.Forall₂ SameSkeleton xs xs') {lss lss' : List (List Layout)}
    (hlss : xs.mapM (fun x => (id x).result) = .ok lss)
    (hlss' : xs'.mapM (fun x => (id x).result) = .ok lss') :
    lss.map (List.flatMap skeleton) = lss'.map (List.flatMap skeleton) := by
  rw [mapM_eq_ok] at hlss hlss'
  induction h generalizing lss lss' with
  | nil => cases hlss; cases hlss'; rfl
  | cons hx _ ih =>
      cases hlss with
      | cons ha has =>
          cases hlss' with
          | cons hb hbs => rw [List.map_cons, List.map_cons, hx _ _ ha hb, ih has hbs]

theorem flatten_skeleton (lss : List (List Layout)) :
    lss.flatten.flatMap skeleton = (lss.map (List.flatMap skeleton)).flatten := by
  induction lss with
  | nil => rfl
  | cons ls lss ih =>
      rw [List.flatten_cons, List.flatMap_append, ih, List.map_cons, List.flatten_cons]

theorem forall₂_mapIdx {α β γ δ : Type} {R : α → β → Prop} {S : γ → δ → Prop}
    {f : Nat → α → γ} {g : Nat → β → δ} {as : List α} {bs : List β}
    (h : List.Forall₂ R as bs) (hfg : ∀ i a b, R a b → S (f i a) (g i b)) :
    List.Forall₂ S (as.mapIdx f) (bs.mapIdx g) := by
  induction h generalizing f g with
  | nil => exact .nil
  | cons hab _ ih =>
      rw [List.mapIdx_cons, List.mapIdx_cons]
      exact .cons (hfg 0 _ _ hab) (ih fun i a b => hfg (i + 1) a b)

theorem forall₂_zipWith {α β γ : Type} {R : α → α → Prop} {S : γ → γ → Prop}
    {f : α → β → γ} {as as' : List α} {bs bs' : List β} (h : List.Forall₂ R as as')
    (hlength : bs.length = bs'.length) (hf : ∀ a a' b b', R a a' → S (f a b) (f a' b')) :
    List.Forall₂ S (List.zipWith f as bs) (List.zipWith f as' bs') := by
  induction h generalizing bs bs' with
  | nil => exact .nil
  | cons haa _ ih =>
      cases bs with
      | nil =>
          cases bs' with
          | nil => exact .nil
          | cons b' bs' => cases hlength
      | cons b bs =>
          cases bs' with
          | nil => cases hlength
          | cons b' bs' => exact .cons (hf _ _ b b' haa) (ih (Nat.succ.inj hlength))

/-- As many layouts that all have one skeleton. -/
theorem flatMap_skeleton_eq {ls ls' : List Layout} {skeleton : List Char}
    (h : ∀ l ∈ ls, l.skeleton = skeleton) (h' : ∀ l ∈ ls', l.skeleton = skeleton)
    (hlength : ls.length = ls'.length) :
    ls.flatMap Layout.skeleton = ls'.flatMap Layout.skeleton := by
  rw [List.flatMap_def, List.flatMap_def, List.map_congr_left h, List.map_congr_left h',
    List.map_const', List.map_const', hlength]

/-! ## Elements -/

theorem skeleton_stateField? {index : Int} {c : Content} {l : Layout}
    (h : stateField? index c = some l) : l.skeleton = [] := by
  cases c with
  | choosable c =>
      obtain ⟨v, hv, rfl⟩ := Option.map_eq_some_iff.mp h
      cases c.control.isOn <;> rfl
  | dropdown d =>
      obtain ⟨v, hv, rfl⟩ := Option.map_eq_some_iff.mp h
      simp only [skeleton_line, rowBrackets_cons, brackets_selection]
      rfl
  | _ => cases h

theorem skeleton_fieldOf {index : Int} {e : Element} {l : Layout}
    (h : (fieldOf index e).result = .ok (some l)) : l.skeleton = [] := by
  obtain ⟨c, hc⟩ := exists_stateField? h
  exact skeleton_stateField? hc

theorem skeleton_placeRow {key : String} {n : Int} {l : Layout} (h : placeRow key n = .ok l) :
    l.skeleton = textBrackets (key ++ ": ") ++ textBrackets "," := by
  obtain ⟨x, -, rfl⟩ := map_eq_ok.mp h
  simp

/-- The place of an element has no brackets. -/
theorem skeleton_placeRows {e : Element} {ls : List Layout} (h : placeRows e = .ok ls) :
    ls.flatMap skeleton = [] := by
  rw [placeRows, bind_eq_ok] at h
  obtain ⟨left, hleft, h⟩ := h
  obtain ⟨top, htop, h⟩ := bind_eq_ok.mp h
  obtain ⟨width, hwidth, h⟩ := bind_eq_ok.mp h
  obtain ⟨height, hheight, h⟩ := bind_eq_ok.mp h
  cases h
  simp only [List.flatMap_cons, skeleton_placeRow hleft, skeleton_placeRow htop,
    skeleton_placeRow hwidth, skeleton_placeRow hheight]
  rfl

theorem skeleton_elementWidget {index : Int} {e e' : Element} (h : SameElement e e')
    {l l' : Layout} (hl : (elementWidget index e).result = .ok l)
    (hl' : (elementWidget index e').result = .ok l') : l.skeleton = l'.skeleton := by
  obtain ⟨c, c', hc, hc', hmasked⟩ := h
  obtain ⟨c₁, hc₁, hwidget⟩ := exists_content hl
  obtain ⟨c₂, hc₂, hwidget'⟩ := exists_content hl'
  rw [hc, Except.ok.injEq] at hc₁
  rw [hc', Except.ok.injEq] at hc₂
  subst hc₁ hc₂
  have hmap : (widget index c).map skeleton = (widget index c').map skeleton := by
    rw [← map_skeleton_widget, hmasked, map_skeleton_widget]
  rw [hwidget, hwidget'] at hmap
  exact Except.ok.inj hmap

/-- Widgets of elements that show the same up to their texts have the same brackets. -/
theorem sameSkeleton_positioned (index : Int) {e e' : Element} (h : SameElement e e') :
    SameSkeleton (positioned index e) (positioned index e') := by
  intro ls ls' hls hls'
  obtain ⟨place, inside, hplace, hinside, rfl⟩ := positioned_eq_ok hls
  obtain ⟨place', inside', hplace', hinside', rfl⟩ := positioned_eq_ok hls'
  simp [elementRemark, skeleton_placeRows hplace, skeleton_placeRows hplace',
    skeleton_elementWidget h hinside hinside']

/-! ## Screens -/

theorem skeleton_screenClasses {s s' : Screen} {n n' : String}
    {fields fields' widgets widgets' : List Layout} (hfields : fields.flatMap skeleton = [])
    (hfields' : fields'.flatMap skeleton = []) (hempty : s.elements.isEmpty = s'.elements.isEmpty)
    (hwidgets : widgets.flatMap skeleton = widgets'.flatMap skeleton) :
    (screenClasses s n fields widgets).flatMap skeleton =
      (screenClasses s' n' fields' widgets').flatMap skeleton := by
  have hstate {fields : List Layout} (h : fields.flatMap skeleton = []) :
      (if fields.isEmpty then [] else fields ++ [blank]).flatMap skeleton = [] := by
    split
    · rfl
    · rw [List.flatMap_append, h]
      rfl
  have hbody : (if s.elements.isEmpty then [emptyBody] else widgets).flatMap skeleton =
      (if s'.elements.isEmpty then [emptyBody] else widgets').flatMap skeleton := by
    rw [hempty]
    split
    · rfl
    · exact hwidgets
  simp only [screenClasses, List.flatMap_cons, skeleton_block, List.flatMap_append, hstate hfields,
    hstate hfields', buildMethod, skeleton_braces, result, skeleton_argument, skeleton_brackets,
    hbody]
  simp

theorem skeleton_fields {s : Screen} {fields : List (Option Layout)}
    (h : (s.elements.mapIdx fun i e => fieldOf i e).mapM (fun x => (id x).result) = .ok fields) :
    (fields.filterMap id).flatMap skeleton = [] := by
  refine List.flatMap_eq_nil_iff.mpr fun l hl => ?_
  obtain ⟨i, e, hfield⟩ := exists_fieldOf h hl
  exact skeleton_fieldOf hfield

theorem sameSkeleton_screen {s s' : Screen} (n n' : String) (h : SameScreen s s') :
    SameSkeleton (screen s n) (screen s' n') := by
  intro ls ls' hls hls'
  obtain ⟨fields, widgets, hfields, hwidgets, rfl⟩ := screen_eq_ok hls
  obtain ⟨fields', widgets', hfields', hwidgets', rfl⟩ := screen_eq_ok hls'
  refine skeleton_screenClasses ?_ ?_ ?_ ?_
  · exact skeleton_fields hfields
  · exact skeleton_fields hfields'
  · rw [Bool.eq_iff_iff, List.isEmpty_iff_length_eq_zero, List.isEmpty_iff_length_eq_zero,
      h.length_eq]
  · have hsame := forall₂_mapIdx h fun i e e' => sameSkeleton_positioned i
    rw [flatten_skeleton, flatten_skeleton, map_skeleton_of_same hsame hwidgets hwidgets']

/-! ## Programs -/

section

variable {screens screens' : List Screen} {names names' : List String}

theorem skeleton_routes (hscreens : screens.length = screens'.length)
    (hnames : names.length = names'.length) :
    (routes screens names).flatMap skeleton = (routes screens' names').flatMap skeleton := by
  have hentries : (List.zipWith routeEntry screens names).flatMap skeleton =
      (List.zipWith routeEntry screens' names').flatMap skeleton := by
    have hentry (screens : List Screen) (names : List String) :
        ∀ l ∈ List.zipWith routeEntry screens names, l.skeleton = ['(', ')', '(', ')'] := by
      rw [← List.map_uncurry_zip_eq_zipWith]
      refine List.forall_mem_map.mpr fun sn _ => rfl
    refine flatMap_skeleton_eq (hentry _ _) (hentry _ _) ?_
    rw [List.length_zipWith, List.length_zipWith, hscreens, hnames]
  cases screens with
  | nil =>
      cases screens' with
      | nil => rfl
      | cons first' rest' => cases hscreens
  | cons first rest =>
      cases screens' with
      | nil => cases hscreens
      | cons first' rest' =>
          simp only [routes, List.flatMap_cons, skeleton_braces, hentries]
          rfl

theorem skeleton_app (dark : Bool) (title title' : String)
    (hscreens : screens.length = screens'.length) (hnames : names.length = names'.length) :
    (app dark title screens names).skeleton = (app dark title' screens' names').skeleton := by
  simp only [app, skeleton_braces, List.flatMap_append, buildMethod, List.flatMap_cons, result,
    skeleton_block, skeleton_textRow, skeleton_routes hscreens hnames]

theorem skeleton_drawer (hscreens : screens.length = screens'.length) :
    (drawer screens).skeleton = (drawer screens').skeleton := by
  have hentries : (screens.map drawerEntry).flatMap skeleton =
      (screens'.map drawerEntry).flatMap skeleton := by
    have hentry (screens : List Screen) :
        ∀ l ∈ screens.map drawerEntry, l.skeleton = (drawerEntry ⟨"", "", []⟩).skeleton :=
      List.forall_mem_map.mpr fun s _ => by simp [drawerEntry, route]
    refine flatMap_skeleton_eq (hentry _) (hentry _) ?_
    rw [List.length_map, List.length_map, hscreens]
  simp only [drawer, skeleton_braces, List.flatMap_append, buildMethod, List.flatMap_cons, result,
    skeleton_block, skeleton_argument, skeleton_brackets, hentries]

end

/-- Layouts of alike designs have the same brackets. -/
theorem skeleton_designLayout {dark : Bool} {title title' : String}
    {screens screens' : List Screen} {ls ls' : List Layout} (h : Alike screens screens')
    (hls : (designLayout dark title screens).result = .ok ls)
    (hls' : (designLayout dark title' screens').result = .ok ls') :
    ls.flatMap skeleton = ls'.flatMap skeleton := by
  have hscreens := h.length_eq
  have hnames : (assign (screens.map Screen.name)).length =
      (assign (screens'.map Screen.name)).length := by
    rw [length_assign, length_assign, List.length_map, List.length_map, hscreens]
  obtain ⟨classes, hclasses, rfl⟩ := designLayout_eq_ok hls
  obtain ⟨classes', hclasses', rfl⟩ := designLayout_eq_ok hls'
  have hsame := map_skeleton_of_same
    (forall₂_zipWith h hnames fun s s' n n' => sameSkeleton_screen n n') hclasses hclasses'
  have hspaced (classes : List (List Layout)) :
      (classes.flatMap (blank :: ·)).flatMap skeleton =
        (classes.map (List.flatMap skeleton)).flatten := by
    rw [List.flatMap_assoc, List.flatMap_def]
    rfl
  simp only [programLayout, List.flatMap_append, List.flatMap_cons, hspaced, hsame,
    skeleton_app dark title title' hscreens hnames, skeleton_drawer hscreens]

/-! ## Texts in a program -/

theorem title_mem_tokens (dark : Bool) (title : String) (screens : List Screen)
    (names : List String) : Token.literal title ∈ (app dark title screens names).tokens := by
  simp [app, braces, buildMethod, result, textRow]

theorem mem_tokens_of_body {t : Token} {l : Layout} {opening closing : List Token}
    {body : List Layout} (hl : l ∈ body) (ht : t ∈ l.tokens) :
    t ∈ (Layout.block opening body closing).tokens := by
  rw [tokens_block]
  exact List.mem_append_right _ (List.mem_append_left _ (List.mem_flatMap.mpr ⟨l, hl, ht⟩))

theorem entry_mem_tokens {screens : List Screen} {s : Screen} (hs : s ∈ screens) {t : Token}
    (ht : t ∈ (drawerEntry s).tokens) : t ∈ (drawer screens).tokens := by
  have hentry : drawerEntry s ∈ drawerHeader :: screens.map drawerEntry :=
    List.mem_cons_of_mem _ (List.mem_map_of_mem hs)
  have hchildren : t ∈ (brackets "children" (drawerHeader :: screens.map drawerEntry)).tokens :=
    mem_tokens_of_body hentry ht
  have hresult : t ∈ (result "Drawer" [argument "child: ListView"
      [brackets "children" (drawerHeader :: screens.map drawerEntry)]]).tokens :=
    mem_tokens_of_body List.mem_cons_self (mem_tokens_of_body List.mem_cons_self hchildren)
  refine mem_tokens_of_body (List.mem_append_right _ (List.mem_cons_of_mem _ List.mem_cons_self)) ?_
  exact mem_tokens_of_body List.mem_cons_self hresult

theorem child_mem_tokens {s : Screen} {n : String} {fields widgets : List Layout} {l : Layout}
    (hl : l ∈ if s.elements.isEmpty then [emptyBody] else widgets) {t : Token} (ht : t ∈ l.tokens) :
    t ∈ (screenClasses s n fields widgets).flatMap tokens := by
  have hstack : t ∈ (argument "body: Stack" [brackets "children"
      (if s.elements.isEmpty then [emptyBody] else widgets)]).tokens :=
    mem_tokens_of_body List.mem_cons_self (mem_tokens_of_body hl ht)
  refine List.mem_flatMap.mpr ⟨_,
    List.mem_cons_of_mem _ (List.mem_cons_of_mem _ List.mem_cons_self),
    mem_tokens_of_body
      (List.mem_append_right _ (List.mem_cons_of_mem _ List.mem_cons_self)) ?_⟩
  refine mem_tokens_of_body List.mem_cons_self (mem_tokens_of_body ?_ hstack)
  exact List.mem_cons_of_mem _ (List.mem_cons_of_mem _ List.mem_cons_self)

/-- What a remark says about an element. -/
def remarkText (e : Element) : String :=
  e.type.name ++ " '" ++ " ".intercalate (Text.words e.id) ++ "'"

theorem remark_mem_tokens {s : Screen} {n : String} {ls : List Layout}
    (h : (screen s n).result = .ok ls) {e : Element} (he : e ∈ s.elements) :
    Token.remark (remarkText e) ∈ ls.flatMap tokens := by
  obtain ⟨fields, widgets, -, hwidgets, rfl⟩ := screen_eq_ok h
  obtain ⟨i, hi, rfl⟩ := List.mem_iff_getElem.mp he
  have hx : positioned i s.elements[i] ∈ s.elements.mapIdx fun i e => positioned i e :=
    List.mem_mapIdx.mpr ⟨i, hi, rfl⟩
  obtain ⟨ws, hws, hpositioned⟩ := exists_mem_mapM hwidgets hx
  obtain ⟨place, inside, -, -, rfl⟩ := positioned_eq_ok hpositioned
  have hremark : elementRemark s.elements[i] ∈ widgets.flatten :=
    List.mem_flatten.mpr ⟨_, hws, List.mem_cons_self⟩
  refine child_mem_tokens (l := elementRemark s.elements[i]) ?_ List.mem_cons_self
  rwa [if_neg]
  simpa using List.ne_nil_of_mem he

/-- Lexemes with every title, name, id and remark of a design, each of them whole. -/
structure ShowsTexts (title : String) (screens : List Screen) (xs : List Lexeme) : Prop where
  title : Lexeme.literal title ∈ xs
  name : ∀ s ∈ screens, Lexeme.literal s.name ∈ xs
  route : ∀ s ∈ screens, Lexeme.literal ("/" ++ s.id) ∈ xs
  remark : ∀ s ∈ screens, ∀ e ∈ s.elements, Lexeme.comment (" " ++ remarkText e) ∈ xs

theorem exists_screen {screens : List Screen} {classes : List (List Layout)}
    (h : (List.zipWith screen screens (assign (screens.map Screen.name))).mapM
      (fun x => (id x).result) = .ok classes) {s : Screen} (hs : s ∈ screens) :
    ∃ n, ∃ ls ∈ classes, (screen s n).result = .ok ls := by
  obtain ⟨i, hi, rfl⟩ := List.mem_iff_getElem.mp hs
  have hlength : i < (List.zipWith screen screens (assign (screens.map Screen.name))).length := by
    simpa [length_assign] using hi
  obtain ⟨ls, hls, hscreen⟩ := exists_mem_mapM h (List.getElem_mem hlength)
  rw [List.getElem_zipWith] at hscreen
  exact ⟨_, ls, hls, hscreen⟩

theorem showsTexts {dark : Bool} {title : String} {screens : List Screen} {ls : List Layout}
    (h : (designLayout dark title screens).result = .ok ls) :
    ShowsTexts title screens (lexemes ls) := by
  obtain ⟨classes, hclasses, rfl⟩ := designLayout_eq_ok h
  have hentry {s : Screen} (hs : s ∈ screens) {t : Token} (ht : t ∈ (drawerEntry s).tokens) :
      t ∈ (programLayout dark title screens (assign (screens.map Screen.name)) classes).flatMap
        tokens := by
    refine List.mem_flatMap.mpr ⟨drawer screens, ?_, entry_mem_tokens hs ht⟩
    simp [programLayout]
  refine ⟨?_, fun s hs => ?_, fun s hs => ?_, fun s hs e he => ?_⟩
  · refine mem_lexemes (t := .literal title) (List.mem_flatMap.mpr ⟨_, ?_,
      title_mem_tokens dark title screens (assign (screens.map Screen.name))⟩) ?_
    · simp [programLayout]
    · exact List.mem_cons_self
  · refine mem_lexemes (hentry hs (t := .literal s.name) ?_) List.mem_cons_self
    simp [drawerEntry, argument, textRow]
  · refine mem_lexemes (hentry hs (t := Dart.route s.id) ?_) List.mem_cons_self
    simp [drawerEntry, argument, braces]
  · obtain ⟨n, ls, hls, hscreen⟩ := exists_screen hclasses hs
    have hremark := remark_mem_tokens hscreen he
    refine mem_lexemes (t := .remark (remarkText e)) ?_ List.mem_cons_self
    obtain ⟨l, hl, hremark⟩ := List.mem_flatMap.mp hremark
    refine List.mem_flatMap.mpr ⟨l, ?_, hremark⟩
    exact List.mem_append_right _ (List.mem_flatMap.mpr ⟨ls, hls, List.mem_cons_of_mem _ hl⟩)

/-- Programs are lexically well formed, whatever texts their designs hold. -/
theorem program_wellFormed {dark : Bool} {title : String} {screens : List Screen} {p : Program}
    (h : (program dark title screens).result = .ok p) :
    ∃ ls, (designLayout dark title screens).result = .ok ls ∧
      p.code = sourceText ls ∧
      scan p.code = some (lexemes ls) ∧
      nest [] (codeBrackets (lexemes ls)) = some [] ∧
      ShowsTexts title screens (lexemes ls) ∧
      ∀ title' screens' p', Alike screens screens' →
        (program dark title' screens').result = .ok p' →
          ∃ ms, scan p'.code = some ms ∧ codeBrackets ms = codeBrackets (lexemes ls) := by
  obtain ⟨ls, hls, hcode⟩ := exists_designLayout h
  have hrows := (each_designLayout hls).rows
  have hbrackets := codeBrackets_lexemes hrows.fits
  refine ⟨ls, hls, hcode, ?_, ?_, showsTexts hls, ?_⟩
  · rw [hcode]
    exact scan_sourceText hrows.fits
  · rw [hbrackets]
    exact hrows.balanced []
  · intro title' screens' p' halike h'
    obtain ⟨ls', hls', hcode'⟩ := exists_designLayout h'
    have hrows' := (each_designLayout hls').rows
    refine ⟨lexemes ls', ?_, ?_⟩
    · rw [hcode']
      exact scan_sourceText hrows'.fits
    · rw [codeBrackets_lexemes hrows'.fits, hbrackets, ← flatMap_skeleton, ← flatMap_skeleton,
        skeleton_designLayout halike hls hls']

/-- A screen whose texts hold quotes, brackets, dollars and line breaks. -/
def quoted : Screen :=
  ⟨"\x7d's", "// [", [⟨"e\n(", .button, 0, 0, 100, 40, [("text", .text "'); // \\ $x\n[")]⟩]⟩

/-- A screen with the same element and texts without any of these. -/
def unquoted : Screen :=
  ⟨"start", "Start", [⟨"next", .button, 0, 0, 100, 40, [("text", .text "Next")]⟩]⟩

theorem program_wellFormed_quoted :
    ∃ p p' xs ys, (program false "It's $5 (" [quoted]).result = .ok p ∧
      (program false "Home" [unquoted]).result = .ok p' ∧
      scan p.code = some xs ∧ scan p'.code = some ys ∧
      Lexeme.literal "It's $5 (" ∈ xs ∧ Lexeme.comment " button 'e ('" ∈ xs ∧
      nest [] (codeBrackets xs) = some [] ∧ codeBrackets ys = codeBrackets xs := by
  obtain ⟨p, hp⟩ : ∃ p, (program false "It's $5 (" [quoted]).result = .ok p := ⟨_, rfl⟩
  obtain ⟨p', hp'⟩ : ∃ p, (program false "Home" [unquoted]).result = .ok p := ⟨_, rfl⟩
  have halike : Alike [quoted] [unquoted] := .cons (.cons ⟨_, _, rfl, rfl, rfl⟩ .nil) .nil
  obtain ⟨ls, -, -, hscan, hnest, htexts, hbrackets⟩ := program_wellFormed hp
  obtain ⟨ys, hscan', hsame⟩ := hbrackets "Home" [unquoted] p' halike hp'
  exact ⟨p, p', lexemes ls, ys, hp, hp', hscan, hscan', htexts.title,
    htexts.remark quoted List.mem_cons_self _ List.mem_cons_self, hnest, hsame⟩

end ScreenDesign.Dart
