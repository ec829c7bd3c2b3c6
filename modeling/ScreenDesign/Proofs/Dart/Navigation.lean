import ScreenDesign.Proofs.Dart.BrokenLinks
import ScreenDesign.Proofs.Dart.LinksProgram
import ScreenDesign.Proofs.Dart.Routes

/-!
# Navigation of programs

A program speaks of routes at four places: the table of routes, the first route, the drawer and
the buttons.  All of them put a slash in front of an id, and write the result as a literal.
`links_of_designLayout`, `routeTable?_program` and `initialRoute?_program` say what is read at
these places.

The warnings compare the target of a button with the ids of the screens, and not with the table.
The two agree because a path is a key of the table exactly if its id is that of a screen
(`path_mem_iff`).  So all navigation stays in the table, but for the buttons that are warned of
(`navigation_closed`).
-/

namespace ScreenDesign.Dart

variable {screens : List Screen}

/-- A path is one of the paths of screens exactly if its id is the id of a screen. -/
theorem path_mem_iff {id : String} :
    "/" ++ id ∈ screens.map path ↔ id ∈ screens.map Screen.id := by
  simp only [List.mem_map, path, String.append_right_inj]

/-- The targets of the buttons of screens, in order. -/
def targets (screens : List Screen) : List String :=
  screens.flatMap fun s => s.elements.filterMap Element.typedTarget?

/-- The links of the screens are those of the targets. -/
theorem flatMap_screenLinks (screens : List Screen) :
    screens.flatMap screenLinks =
      (targets screens).map fun target => .push ("/" ++ target) := by
  rw [targets, List.map_flatMap]
  refine congrArg (List.flatMap · screens) (funext fun s => ?_)
  rw [screenLinks, List.map_filterMap, List.filterMap_eq_flatMap_toList]
  refine congrArg (List.flatMap · s.elements) (funext fun e => ?_)
  rw [elementLinks, targetLinks]
  cases e.typedTarget? <;> rfl

/-- The warnings of a program by the paths of its screens. -/
theorem warnings_eq_of_paths {dark : Bool} {title : String} {p : Program}
    (h : (program dark title screens).result = .ok p) :
    p.warnings = screens.flatMap fun s => s.elements.filterMap fun e =>
      (e.typedTarget?.filter fun target => "/" ++ target ∉ screens.map path).map
        fun target => ⟨s.id, e.id, target⟩ := by
  have hfound := @result_warnings_of screens _ fun _ _ e _ => result_target e
  simp only [path_mem_iff]
  exact Except.ok.inj ((warnings_of_program h).symm.trans hfound)

/-- The table of routes has the paths of the screens as keys and the assigned names as classes. -/
theorem unzip_routes (screens : List Screen) :
    ((screens.map path).zip (assign (screens.map Screen.name))).map Prod.fst =
        screens.map path ∧
      ((screens.map path).zip (assign (screens.map Screen.name))).map Prod.snd =
        assign (screens.map Screen.name) := by
  have hlength : (screens.map path).length = (assign (screens.map Screen.name)).length := by
    rw [length_assign, List.length_map, List.length_map]
  exact ⟨List.map_fst_zip hlength.le, List.map_snd_zip hlength.ge⟩

/-- Navigation is closed up to the warnings.  A program reads as lexemes with a table of routes.
Its keys are the paths of the screens, and their classes are the assigned names, each in order.
The first route is that of the first screen.  The links are one for each screen in the drawer,
and then one for each button with a target, in order.  There is a warning for each of these
buttons whose route is no key of the table, in the same order, and for no other.  The first route
and those of the drawer are keys.  Two screens share a key only if they share their id. -/
theorem navigation_closed {dark : Bool} {title : String} {p : Program}
    (h : (program dark title screens).result = .ok p) :
    ∃ ls table, scan p.code = some ls ∧ routeTable? ls = some table ∧
      table.map Prod.fst = screens.map path ∧
      table.map Prod.snd = assign (screens.map Screen.name) ∧
      initialRoute? ls = screens.head?.map path ∧
      links ls = (screens.map fun s => .replace (path s)) ++
        ((targets screens).map fun target => .push ("/" ++ target)) ∧
      p.warnings = (screens.flatMap fun s => s.elements.filterMap fun e =>
        (e.typedTarget?.filter fun target => "/" ++ target ∉ table.map Prod.fst).map
          fun target => ⟨s.id, e.id, target⟩) ∧
      (∀ route, initialRoute? ls = some route ∨ .replace route ∈ links ls →
        route ∈ table.map Prod.fst) ∧
      ∀ s ∈ screens, ∀ s' ∈ screens, literal (path s) = literal (path s') → s.id = s'.id := by
  obtain ⟨ls, hls, hcode⟩ := exists_designLayout h
  have hscan : scan p.code = some (lexemes ls) := by
    rw [hcode]
    exact scan_sourceText (each_designLayout hls).rows.fits
  have hinitial := initialRoute?_program hls
  have hlinks := links_of_designLayout hls
  rw [flatMap_screenLinks] at hlinks
  obtain ⟨hkeys, hnames⟩ := unzip_routes screens
  refine ⟨_, _, hscan, routeTable?_program hls, hkeys, hnames, hinitial, hlinks, ?_, ?_, ?_⟩
  · rw [hkeys]
    exact warnings_eq_of_paths h
  · rw [hkeys]
    rintro route (hroute | hroute)
    · rw [hinitial] at hroute
      obtain ⟨s, hs, rfl⟩ := Option.map_eq_some_iff.mp hroute
      exact List.mem_map.mpr ⟨s, List.mem_of_head? hs, rfl⟩
    · rw [hlinks, List.mem_append] at hroute
      rcases hroute with hroute | hroute
      · obtain ⟨s, hs, hpath⟩ := List.mem_map.mp hroute
        cases hpath
        exact List.mem_map.mpr ⟨s, hs, rfl⟩
      · obtain ⟨target, -, hpush⟩ := List.mem_map.mp hroute
        cases hpush
  · intro s _ s' _ hsame
    exact (String.append_right_inj "/").mp (literal_injective hsame)

/-- One of two buttons leads to no screen, and the program warns of it. -/
theorem navigation_of_two_links :
    ∃ p ls, (program false "App"
        (linkDesign [linkBag (.text "away"), linkBag (.text "home")])).result = .ok p ∧
      scan p.code = some ls ∧ routeTable? ls = some [("/home", "HomeScreen")] ∧
      initialRoute? ls = some "/home" ∧
      links ls = [.replace "/home", .push "/away", .push "/home"] ∧
      p.warnings = [⟨"home", "go", "away"⟩] := by
  obtain ⟨p, hp⟩ : ∃ p, (program false "App"
      (linkDesign [linkBag (.text "away"), linkBag (.text "home")])).result = .ok p := ⟨_, rfl⟩
  obtain ⟨ls, table, hscan, htable, hkeys, hnames, hinitial, hlinks, hwarnings, -⟩ :=
    navigation_closed hp
  have hone : table = [("/home", "HomeScreen")] := by
    rw [← List.zip_unzip table, List.unzip_eq_map, hkeys, hnames]
    decide
  have htargets : targets (linkDesign [linkBag (.text "away"), linkBag (.text "home")]) =
      ["away", "home"] := by decide
  rw [hone] at htable hwarnings
  rw [htargets] at hlinks
  exact ⟨p, ls, hp, hscan, htable, hinitial, hlinks, hwarnings.trans (by decide)⟩

end ScreenDesign.Dart
