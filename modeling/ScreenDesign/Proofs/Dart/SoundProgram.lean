import ScreenDesign.Proofs.Dart.SoundWidget

/-!
# Programs are sound

The layout of a program is sound, whatever is in the design: the classes of the app
and the drawer, and the classes of every screen with its state and its widgets
(`each_designLayout`).  Remarks stand in the body of a screen only.
-/

namespace ScreenDesign.Dart

open Layout

/-! ## The app -/

theorem Sound.result {cs : List Char} {body : List Layout} (h : cs.all isPlain = true)
    (hbody : Each true body) : Sound true (Dart.result (String.ofList cs) body) := by
  have hname : PlainName ("return " ++ String.ofList cs) :=
    .append (plainName_ofList rfl) (plainName_ofList h)
  exact @Sound.parentheses _ [';'] _ _ hname rfl hbody

theorem each_buildMethod {body : List Layout} (h : Each true body) : Each true (buildMethod body) :=
  ⟨.row rfl, .braces rfl rfl h, trivial⟩

theorem sound_themeData (dark : Bool) : Sound false (themeData dark) := by
  cases dark with
  | true =>
      refine .call rfl ⟨.row rfl, .row rfl, .row rfl, .argument rfl ?_, trivial⟩
      exact ⟨.row rfl, .row rfl, trivial⟩
  | false =>
      refine .call rfl ⟨.row rfl, .row rfl, .row rfl, .argument rfl ?_, trivial⟩
      exact ⟨.row rfl, .row rfl, .row rfl, trivial⟩

theorem sound_routeEntry (s : Screen) {className : String} (h : PlainName className) :
    Sound true (routeEntry s className) :=
  .line ⟨rfl, rfl, h, rfl, trivial⟩ rfl

theorem each_zipWith {α β : Type} {f : α → β → Layout} {as : List α} {bs : List β}
    (h : ∀ a, ∀ b ∈ bs, Sound true (f a b)) : Each true (List.zipWith f as bs) := by
  induction as generalizing bs with
  | nil => trivial
  | cons a as ih =>
      cases bs with
      | nil => trivial
      | cons b bs =>
          obtain ⟨hb, hbs⟩ := List.forall_mem_cons.mp fun b hb a => h a b hb
          exact ⟨hb a, ih fun a b hb => hbs b hb a⟩

theorem each_routes (screens : List Screen) {names : List String} (h : ∀ n ∈ names, PlainName n) :
    Each true (routes screens names) := by
  cases screens with
  | nil => exact ⟨.row rfl, trivial⟩
  | cons first rest =>
      refine ⟨.around rfl (.literal _), .braces rfl rfl ?_, trivial⟩
      exact each_zipWith fun s n hn => sound_routeEntry s (h n hn)

/-- The class of the app is a head with a sound body. -/
theorem exists_appBody (dark : Bool) (title : String) (screens : List Screen)
    {names : List String} (h : ∀ n ∈ names, PlainName n) :
    ∃ body, app dark title screens names = braces "class MyApp extends StatelessWidget " body "" ∧
      Each true body := by
  refine ⟨_, rfl, .append ⟨.row rfl, .blank, trivial⟩ (each_buildMethod ?_)⟩
  refine ⟨.result rfl (.append ⟨.textRow rfl, .row rfl, ?_, trivial⟩ (each_routes screens h)),
    trivial⟩
  exact .attach rfl (sound_themeData dark)

theorem sound_app (dark : Bool) (title : String) (screens : List Screen) {names : List String}
    (h : ∀ n ∈ names, PlainName n) : Sound true (app dark title screens names) := by
  obtain ⟨body, happ, hbody⟩ := exists_appBody dark title screens h
  rw [happ]
  exact .braces rfl rfl hbody

/-! ## The drawer -/

/-- The heading of the drawer has two lines that are balanced only together. -/
theorem sound_drawerHeader : Sound true drawerHeader := by
  refine .argument rfl ⟨.enclosed rfl ⟨?_, balanced_iff.mpr rfl⟩, trivial⟩
  refine List.forall_mem_cons.mpr ⟨.inl ⟨rfl, rfl, trivial⟩, ?_⟩
  refine List.forall_mem_cons.mpr ⟨.inl ⟨rfl, trivial⟩, ?_⟩
  exact List.forall_mem_singleton.mpr (.inl ⟨rfl, trivial⟩)

theorem sound_drawerEntry (s : Screen) : Sound true (drawerEntry s) := by
  refine .argument rfl ⟨.textRow rfl, .braces rfl rfl ⟨.row rfl, ?_, trivial⟩, trivial⟩
  have hpush : Each true
      [.line [.code "Navigator.of(context).pushReplacementNamed(", route s.id, .code ");"]] :=
    ⟨.around rfl (.literal _), trivial⟩
  exact @Sound.block _ _ _ _ ['\x7d'] (.inl ⟨rfl, rfl, rfl, trivial⟩) (.inl ⟨rfl, trivial⟩) rfl rfl
    hpush.rows

/-- The class of the drawer is a head with a sound body. -/
theorem exists_drawerBody (screens : List Screen) :
    ∃ body, drawer screens = braces "class AppSidebar extends StatelessWidget " body "" ∧
      Each true body := by
  refine ⟨_, rfl, .append ⟨.row rfl, .blank, trivial⟩ (each_buildMethod ?_)⟩
  refine ⟨.result rfl ⟨.argument rfl ⟨.brackets rfl ?_, trivial⟩, trivial⟩, trivial⟩
  exact ⟨sound_drawerHeader, .map fun s _ => sound_drawerEntry s⟩

theorem sound_drawer (screens : List Screen) : Sound true (drawer screens) := by
  obtain ⟨body, hdrawer, hbody⟩ := exists_drawerBody screens
  rw [hdrawer]
  exact .braces rfl rfl hbody

/-! ## Screens -/

theorem exists_stateField? {index : Int} {e : Element} {l : Layout}
    (h : (fieldOf index e).result = .ok (some l)) : ∃ c, stateField? index c = some l := by
  rw [fieldOf] at h
  split at h
  · rw [Logged.result_bind, bind_eq_ok] at h
    obtain ⟨r, -, h⟩ := h
    split at h
    · rw [Logged.result_bind, bind_eq_ok] at h
      obtain ⟨c, -, h⟩ := h
      rw [Logged.result_pure, Except.ok.injEq] at h
      exact ⟨c, h⟩
    · cases h
  · cases h

theorem sound_fieldOf {index : Int} {e : Element} {l : Layout}
    (h : (fieldOf index e).result = .ok (some l)) : Sound false l := by
  obtain ⟨c, hc⟩ := exists_stateField? h
  exact sound_stateField? hc

/-- The widget of an element is the widget of what the element shows. -/
theorem exists_content {index : Int} {e : Element} {l : Layout}
    (h : (elementWidget index e).result = .ok l) :
    ∃ c, e.content.result = .ok c ∧ widget index c = .ok l := by
  rw [elementWidget, Logged.result_bind, bind_eq_ok] at h
  obtain ⟨r, hr, h⟩ := h
  rw [Logged.result_bind, bind_eq_ok] at h
  obtain ⟨c, hc, h⟩ := h
  refine ⟨c, ?_, ?_⟩
  · rw [Element.content, Logged.result_bind, hr]
    exact hc
  split at h
  · rw [Logged.result_bind, bind_eq_ok] at h
    obtain ⟨choices, -, h⟩ := h
    exact h
  · exact h

theorem sound_elementWidget {index : Int} {e : Element} {l : Layout}
    (h : (elementWidget index e).result = .ok l) : Sound false l := by
  obtain ⟨c, hc, hl⟩ := exists_content h
  have := ensures_widget index (plainName_of_mem_iconNames hc)
  rwa [hl] at this

/-- The source text of a widget is read as its lexemes. -/
theorem scan_elementWidget {index : Int} {e : Element} {l : Layout}
    (h : (elementWidget index e).result = .ok l) : scan (sourceText [l]) = some (lexemes [l]) := by
  have hsound : Each true [l] := ⟨(sound_elementWidget h).allowed, trivial⟩
  exact scan_sourceText hsound.rows.fits

theorem ensures_placeRow {cs : List Char} (hcs : cs.all isPlain = true) (n : Int) :
    Ensures (Sound false) (placeRow (String.ofList cs) n) := by
  refine ensures_numberBetween ?_
  have hkey : (String.ofList cs ++ ": ").toList = cs ++ [':', ' '] := by simp
  have hplain : (cs ++ [':', ' ']).all isPlain = true := by
    rw [List.all_append, hcs]
    rfl
  have hfree : freesAfter true (cs ++ [':', ' ']) = true := by
    rw [freesAfter, List.getLast?_append]
    rfl
  rw [hkey, surrounds, all_isInert hplain, hfree, filter_isBracket_of_plain hplain]
  rfl

theorem each_placeRows {e : Element} {ls : List Layout} (h : placeRows e = .ok ls) :
    Each false ls := by
  have : Ensures (Each false) (placeRows e) := by
    refine (ensures_placeRow rfl e.x).bind fun left hleft => ?_
    refine (ensures_placeRow rfl e.y).bind fun top htop => ?_
    refine (ensures_placeRow rfl e.width).bind fun width hwidth => ?_
    refine (ensures_placeRow rfl e.height).bind fun height hheight => ?_
    exact ⟨hleft, htop, hwidth, hheight, trivial⟩
  rwa [h] at this

theorem sound_remark {s : String} (h : OneLine s) : Sound true (.line [.remark s]) where
  fits := List.forall_mem_singleton.mpr (.inr ⟨rfl, s, rfl, h⟩)
  balanced := .nil

theorem positioned_eq_ok {index : Int} {e : Element} {ls : List Layout}
    (h : (positioned index e).result = .ok ls) :
    ∃ place inside, placeRows e = .ok place ∧ (elementWidget index e).result = .ok inside ∧
      ls = [elementRemark e, argument "Positioned" (place ++ [attach "child" inside])] := by
  rw [positioned, Logged.result_bind, bind_eq_ok] at h
  obtain ⟨place, hplace, h⟩ := h
  rw [Logged.result_bind, bind_eq_ok] at h
  obtain ⟨inside, hinside, h⟩ := h
  cases h
  exact ⟨place, inside, hplace, hinside, rfl⟩

theorem each_positioned {index : Int} {e : Element} {ls : List Layout}
    (h : (positioned index e).result = .ok ls) : Each true ls := by
  obtain ⟨place, inside, hplace, hinside, rfl⟩ := positioned_eq_ok h
  refine ⟨sound_remark (oneLine_elementRemark e), .argument rfl (.append ?_ ?_), trivial⟩
  · exact (each_placeRows hplace).allowed
  · exact ⟨.attach rfl (sound_elementWidget hinside), trivial⟩

/-- The first line of the class of a screen. -/
def widgetOpening (className : String) : List Token :=
  [.code "class ", .declared className, .code " extends StatefulWidget \x7b"]

/-- The first line of the class of the state of a screen. -/
def stateOpening (className : String) : List Token :=
  [.code "class ", .declared ("_" ++ className ++ "State"), .code " extends State<",
    .declared className, .code "> \x7b"]

/-- The body of the class of the state of a screen. -/
def stateBody (s : Screen) (fields widgets : List Layout) : List Layout :=
  (if fields.isEmpty then [] else fields ++ [blank]) ++
    buildMethod
      [result "Scaffold"
        [argument "appBar: AppBar" [textRow "title: Text(" s.name "),"],
         row "drawer: const AppSidebar(),",
         argument "body: Stack"
          [brackets "children" (if s.elements.isEmpty then [emptyBody] else widgets)]]]

/-- The classes of a screen are two lines with bodies, of which the first is sound. -/
theorem exists_widgetBody (s : Screen) {className : String} (fields widgets : List Layout)
    (hname : PlainName className) :
    ∃ body, screenClasses s className fields widgets =
        [.block (widgetOpening className) body [.code "\x7d"], blank,
          .block (stateOpening className) (stateBody s fields widgets) [.code "\x7d"]] ∧
      Each true body := by
  have hstate : PlainName ("_" ++ className ++ "State") :=
    .append (.append (plainName_ofList rfl) hname) (plainName_ofList rfl)
  refine ⟨_, rfl, .line ⟨rfl, hname, rfl, trivial⟩ rfl, .blank, .row rfl, ?_, trivial⟩
  exact .line ⟨rfl, hname, rfl, hstate, rfl, trivial⟩ rfl

theorem each_stateBody (s : Screen) {fields widgets : List Layout} (hfields : Each true fields)
    (hwidgets : Each true widgets) : Each true (stateBody s fields widgets) := by
  refine .append (.ite trivial (.append hfields ⟨.blank, trivial⟩)) (each_buildMethod ?_)
  refine ⟨.result rfl ⟨.argument rfl ⟨.textRow rfl, trivial⟩, .row rfl, ?_, trivial⟩, trivial⟩
  refine .argument rfl ⟨.brackets rfl (.ite ⟨sound_remark ?_, trivial⟩ hwidgets), trivial⟩
  exact oneLine_ofList rfl

theorem each_screenClasses (s : Screen) {className : String} {fields widgets : List Layout}
    (hname : PlainName className) (hfields : Each true fields) (hwidgets : Each true widgets) :
    Each true (screenClasses s className fields widgets) := by
  have hstate : PlainName ("_" ++ className ++ "State") :=
    .append (.append (plainName_ofList rfl) hname) (plainName_ofList rfl)
  obtain ⟨body, hclasses, hbody⟩ := exists_widgetBody s fields widgets hname
  rw [hclasses]
  refine ⟨?_, .blank, ?_, trivial⟩
  · exact @Sound.block _ _ _ _ ['\x7d'] (.inl ⟨rfl, hname, rfl, trivial⟩) (.inl ⟨rfl, trivial⟩)
      rfl rfl hbody.rows
  · exact @Sound.block _ _ _ _ ['\x7d'] (.inl ⟨rfl, hstate, rfl, hname, rfl, trivial⟩)
      (.inl ⟨rfl, trivial⟩) rfl rfl (each_stateBody s hfields hwidgets).rows

theorem screen_eq_ok {s : Screen} {className : String} {ls : List Layout}
    (h : (screen s className).result = .ok ls) :
    ∃ fields widgets,
      (s.elements.mapIdx fun i e => fieldOf i e).mapM (fun x => (id x).result) = .ok fields ∧
      (s.elements.mapIdx fun i e => positioned i e).mapM (fun x => (id x).result) = .ok widgets ∧
      ls = screenClasses s className (fields.filterMap id) widgets.flatten := by
  rw [screen, Logged.result_bind, Logged.result_mapM, bind_eq_ok] at h
  obtain ⟨fields, hfields, h⟩ := h
  rw [Logged.result_bind, Logged.result_mapM, bind_eq_ok] at h
  obtain ⟨widgets, hwidgets, h⟩ := h
  cases h
  exact ⟨fields, widgets, hfields, hwidgets, rfl⟩

theorem exists_fieldOf {s : Screen} {fields : List (Option Layout)}
    (h : (s.elements.mapIdx fun i e => fieldOf i e).mapM (fun x => (id x).result) = .ok fields)
    {l : Layout} (hl : l ∈ fields.filterMap id) :
    ∃ (i : Nat) (e : Element), (fieldOf i e).result = .ok (some l) := by
  obtain ⟨field, hfield, hl⟩ := List.mem_filterMap.mp hl
  obtain ⟨x, hx, hfield⟩ := exists_of_mem_mapM h hfield
  obtain ⟨i, hi, rfl⟩ := List.mem_mapIdx.mp hx
  cases hl
  exact ⟨i, _, hfield⟩

theorem each_fields {s : Screen} {fields : List (Option Layout)}
    (h : (s.elements.mapIdx fun i e => fieldOf i e).mapM (fun x => (id x).result) = .ok fields) :
    Each true (fields.filterMap id) := by
  refine each_iff.mpr fun l hl => ?_
  obtain ⟨i, e, hfield⟩ := exists_fieldOf h hl
  exact (sound_fieldOf hfield).allowed

theorem each_widgets {s : Screen} {widgets : List (List Layout)}
    (h : (s.elements.mapIdx fun i e => positioned i e).mapM (fun x => (id x).result) =
      .ok widgets) : Each true widgets.flatten := by
  refine each_iff.mpr fun l hl => ?_
  obtain ⟨widget, hwidget, hl⟩ := List.mem_flatten.mp hl
  obtain ⟨x, hx, hwidget⟩ := exists_of_mem_mapM h hwidget
  obtain ⟨i, hi, rfl⟩ := List.mem_mapIdx.mp hx
  exact each_iff.mp (each_positioned hwidget) l hl

theorem each_screen {s : Screen} {className : String} {ls : List Layout}
    (h : (screen s className).result = .ok ls) (hname : PlainName className) : Each true ls := by
  obtain ⟨fields, widgets, hfields, hwidgets, rfl⟩ := screen_eq_ok h
  exact each_screenClasses s hname (each_fields hfields) (each_widgets hwidgets)

/-! ## The program -/

/-- The layout of the program of a design. -/
def designLayout (dark : Bool) (title : String) (screens : List Screen) : Logged (List Layout) := do
  let names := assign (screens.map Screen.name)
  let classes ← (List.zipWith screen screens names).mapM id
  pure (programLayout dark title screens names classes)

/-- A program is the source text of the layout of its design. -/
theorem exists_designLayout {dark : Bool} {title : String} {screens : List Screen} {p : Program}
    (h : (program dark title screens).result = .ok p) :
    ∃ ls, (designLayout dark title screens).result = .ok ls ∧ p.code = sourceText ls := by
  rw [program, Logged.result_bind, bind_eq_ok] at h
  obtain ⟨found, -, h⟩ := h
  rw [Logged.result_bind, bind_eq_ok] at h
  obtain ⟨-, -, h⟩ := h
  rw [Logged.result_bind, bind_eq_ok] at h
  obtain ⟨classes, hclasses, h⟩ := h
  cases h
  refine ⟨_, ?_, rfl⟩
  rw [designLayout, Logged.result_bind, hclasses]
  rfl

theorem designLayout_eq_ok {dark : Bool} {title : String} {screens : List Screen}
    {ls : List Layout} (h : (designLayout dark title screens).result = .ok ls) :
    ∃ classes, (List.zipWith screen screens (assign (screens.map Screen.name))).mapM
        (fun x => (id x).result) = .ok classes ∧
      ls = programLayout dark title screens (assign (screens.map Screen.name)) classes := by
  rw [designLayout, Logged.result_bind, Logged.result_mapM, bind_eq_ok] at h
  obtain ⟨classes, hclasses, h⟩ := h
  cases h
  exact ⟨classes, hclasses, rfl⟩

theorem each_designLayout {dark : Bool} {title : String} {screens : List Screen}
    {ls : List Layout} (h : (designLayout dark title screens).result = .ok ls) : Each true ls := by
  have hnames : ∀ n ∈ assign (screens.map Screen.name), PlainName n :=
    fun n hn => (wordName_of_mem_assign hn).plain
  obtain ⟨classes, hclasses, rfl⟩ := designLayout_eq_ok h
  refine .append (.append ?_ ?_) ?_
  · exact ⟨.around rfl (.literal _), .blank, .braces rfl rfl ⟨.row rfl, trivial⟩, trivial⟩
  · exact ⟨.blank, sound_app dark title screens hnames, .blank, sound_drawer screens, trivial⟩
  · refine each_iff.mpr fun l hl => ?_
    obtain ⟨lines, hlines, hl⟩ := List.mem_flatMap.mp hl
    obtain rfl | hl := List.mem_cons.mp hl
    · exact .blank
    · obtain ⟨x, hx, hlines⟩ := exists_of_mem_mapM hclasses hlines
      rw [← List.map_uncurry_zip_eq_zipWith] at hx
      obtain ⟨⟨s, n⟩, hsn, rfl⟩ := List.mem_map.mp hx
      exact each_iff.mp (each_screen hlines (hnames n (List.of_mem_zip hsn).2)) l hl

end ScreenDesign.Dart
