import ScreenDesign.Proofs.Dart.Generation
import ScreenDesign.Proofs.Dart.LinksWidget

/-!
# Links of programs

The app has no links.  The drawer has one for each screen, which takes the place of the last
route, and the body of a screen has those of its buttons (`links_of_designLayout`).  The target
of a button is the one in its record.
-/

namespace ScreenDesign.Dart

open Layout

/-! ## The app and the drawer -/

theorem Leads.result {out : List Link} {body : List Layout} {cs : List Char}
    (h : isFirm (cs ++ ['(']) = true) (hbody : Leads out (body.flatMap tokens)) :
    Leads out (Dart.result (String.ofList cs) body).tokens := by
  have hopening := Leads.ending "return " h
  rw [String.ofList_append, ← String.append_assoc] at hopening
  exact .block hopening hbody (@Leads.code [')', ';'] rfl)

theorem Leads.buildMethod {out : List Link} {body : List Layout}
    (h : Leads out (body.flatMap tokens)) : Leads out ((Dart.buildMethod body).flatMap tokens) :=
  .later (.row rfl) (.only (.braces rfl h))

theorem calm_blank : Calm blank := Leads.nil

theorem calm_preamble : preamble.Forall Calm :=
  ⟨.around rfl (.literal _), calm_blank, .braces rfl (.only (Calm.row rfl))⟩

theorem calm_themeData (dark : Bool) : Calm (themeData dark) := by
  cases dark with
  | true =>
      refine .call rfl (.all ⟨.row rfl, .row rfl, .row rfl, .argument rfl (.all ?_)⟩)
      exact ⟨.row rfl, .row rfl⟩
  | false =>
      refine .call rfl (.all ⟨.row rfl, .row rfl, .row rfl, .argument rfl (.all ?_)⟩)
      exact ⟨.row rfl, .row rfl, .row rfl⟩

theorem calm_routeEntry (s : Screen) (className : String) : Calm (routeEntry s className) := by
  have hclass : Leads [] [.declared className, .code "(),"] :=
    (Leads.declared _).calm_left (@Leads.code ['(', ')', ','] rfl)
  have hbefore : Leads [] [.code ": (context) => const "] := .code rfl
  exact (Leads.literal ("/" ++ s.id)).calm_left (hbefore.calm_left hclass)

theorem calm_routes (screens : List Screen) (names : List String) :
    (routes screens names).Forall Calm := by
  cases screens with
  | nil => exact .row rfl
  | cons first rest =>
      refine ⟨.around rfl (.literal _), .braces rfl (.all (List.forall_iff_forall_mem.mpr ?_))⟩
      rw [← List.map_uncurry_zip_eq_zipWith]
      exact List.forall_mem_map.mpr fun sn _ => calm_routeEntry sn.1 sn.2

theorem calm_app (dark : Bool) (title : String) (screens : List Screen) (names : List String) :
    Calm (app dark title screens names) := by
  refine .braces rfl (.later (.row rfl) (.later calm_blank (.buildMethod ?_)))
  refine .only (.result rfl (.all (List.forall_append.mpr ⟨?_, calm_routes screens names⟩)))
  exact ⟨.textRow rfl, .row rfl, .attach (calm_themeData dark)⟩

theorem leads_drawerEntry (s : Screen) : Leads [.replace ("/" ++ s.id)] (drawerEntry s).tokens := by
  have hcondition : Leads []
      [.code "if (ModalRoute.of(context)?.settings.name != ", route s.id, .code ") \x7b"] :=
    Calm.around rfl (.literal _)
  refine .argument rfl (.later (.textRow rfl) (.only (.braces rfl ?_)))
  exact .later (.row rfl) (.only (.block hcondition (.only (.replace _)) (.code rfl)))

theorem calm_drawerHeader : Calm drawerHeader := by
  have hheading : Leads [] [.literal "Screens", .code ","] :=
    (Leads.literal _).calm_left (@Leads.code [','] rfl)
  refine .argument rfl (.only (.argument rfl (.later hheading (.all ?_))))
  exact ⟨.row rfl, .row rfl⟩

theorem leads_drawer (screens : List Screen) :
    Leads (screens.map fun s => .replace ("/" ++ s.id)) (drawer screens).tokens := by
  have hentries : Leads (screens.flatMap fun s => [.replace ("/" ++ s.id)])
      ((screens.map drawerEntry).flatMap tokens) := .map fun s _ => leads_drawerEntry s
  rw [← List.map_eq_flatMap] at hentries
  refine .braces rfl (.later (.row rfl) (.later calm_blank (.buildMethod ?_)))
  refine .only (.result rfl (.only (.argument rfl (.only (.brackets ?_)))))
  exact .later calm_drawerHeader hentries

/-! ## Elements -/

/-- The links of an element. -/
def elementLinks (e : Element) : List Link := targetLinks e.typedTarget?

/-- What an element shows has the target in its record. -/
theorem contentTarget?_of_content {e : Element} {c : Content} (h : e.content.result = .ok c) :
    contentTarget? c = e.typedTarget? := by
  rw [Element.content, Logged.result_bind, bind_eq_ok] at h
  obtain ⟨r, hr, h⟩ := h
  rw [Element.typedTarget?, hr]
  revert h
  cases e.type with
  | button => rintro ⟨⟩; rfl
  | list =>
      intro h
      rw [Content.ofRecord, Logged.result_bind, bind_eq_ok] at h
      obtain ⟨items, -, h⟩ := h
      cases h
      rfl
  | dropdown =>
      intro h
      rw [Content.ofRecord, Logged.result_bind, bind_eq_ok] at h
      obtain ⟨choices, -, h⟩ := h
      cases h
      rfl
  | dynamicTable =>
      intro h
      rw [Content.ofRecord, Logged.result_bind, bind_eq_ok] at h
      obtain ⟨table, -, h⟩ := h
      cases h
      rfl
  | _ => rintro ⟨⟩; rfl

theorem leads_elementWidget {index : Int} {e : Element} {l : Layout}
    (h : (elementWidget index e).result = .ok l) : Leads (elementLinks e) l.tokens := by
  obtain ⟨c, hc, hl⟩ := exists_content h
  have hwidget := leads_widget index c
  rw [hl] at hwidget
  rw [elementLinks, ← contentTarget?_of_content hc]
  exact hwidget

theorem calm_placeRows {e : Element} {ls : List Layout} (h : placeRows e = .ok ls) :
    ls.Forall Calm := by
  have hplace : Ensures (List.Forall Calm) (placeRows e) := by
    have hrow {cs : List Char} (n : Int) (h : isCalm (cs ++ [':', ' ']) = true) :
        Ensures Calm (placeRow (String.ofList cs) n) := by
      have hcomma : isCalm [','] = true := rfl
      have := @calm_numberRow (cs ++ [':', ' ']) [','] (.int n) (by rw [h, hcomma]; rfl)
      rwa [String.ofList_append] at this
    refine (hrow e.x rfl).bind fun left hleft => ?_
    refine (hrow e.y rfl).bind fun top htop => ?_
    refine (hrow e.width rfl).bind fun width hwidth => ?_
    refine (hrow e.height rfl).bind fun height hheight => ?_
    exact ⟨hleft, htop, hwidth, hheight⟩
  rwa [h] at hplace

theorem leads_positioned {index : Int} {e : Element} {ls : List Layout}
    (h : (positioned index e).result = .ok ls) : Leads (elementLinks e) (ls.flatMap tokens) := by
  obtain ⟨place, inside, hplace, hinside, rfl⟩ := positioned_eq_ok h
  have hbody : Leads (elementLinks e) ((place ++ [attach "child" inside]).flatMap tokens) := by
    rw [List.flatMap_append]
    exact (Leads.all (calm_placeRows hplace)).calm_left
      (.only (.attach (leads_elementWidget hinside)))
  exact .later (Leads.remark _) (.only (.argument rfl hbody))

/-- Layouts that are made one by one have their links one by one. -/
theorem Leads.flatten {α : Type} {as : List α} {f : α → List Link}
    {xs : List (Logged (List Layout))}
    (h : List.Forall₂ (fun a x => ∀ ls, x.result = .ok ls → Leads (f a) (ls.flatMap tokens)) as xs)
    {lss : List (List Layout)} (hlss : xs.mapM (fun x => (id x).result) = .ok lss) :
    Leads (as.flatMap f) (lss.flatten.flatMap tokens) := by
  rw [mapM_eq_ok] at hlss
  induction h generalizing lss with
  | nil => cases hlss; exact .nil
  | cons hx _ ih =>
      cases hlss with
      | cons hls hlss =>
          rw [List.flatMap_cons, List.flatten_cons, List.flatMap_append]
          exact (hx _ hls).append (ih hlss)

/-! ## Screens -/

theorem calm_stateField? {index : Int} {c : Content} {l : Layout}
    (h : stateField? index c = some l) : Calm l := by
  have hdeclaration {cs : List Char} (v : String) {t : Token} (hcs : isCalm cs = true)
      (ht : Leads [] [t]) :
      Calm (.line [.code (String.ofList cs), .declared v, .code " = ", t, .code ";"]) :=
    (Leads.code hcs).calm_left <| (Leads.declared v).calm_left <|
      (@Leads.code [' ', '=', ' '] rfl).calm_left <| ht.calm_left (@Leads.code [';'] rfl)
  cases c with
  | choosable c =>
      obtain ⟨v, -, rfl⟩ := Option.map_eq_some_iff.mp h
      exact hdeclaration v rfl (calm_truth _)
  | dropdown d =>
      obtain ⟨v, -, rfl⟩ := Option.map_eq_some_iff.mp h
      exact hdeclaration v rfl (calm_selection d)
  | _ => cases h

/-- The links in the classes of a screen are those of its body. -/
theorem leads_screenClasses (s : Screen) (name : String) {fields widgets : List Layout}
    {out : List Link} (hfields : fields.Forall Calm)
    (hbody : Leads out ((if s.elements.isEmpty then [emptyBody] else widgets).flatMap tokens)) :
    Leads out ((screenClasses s name fields widgets).flatMap tokens) := by
  have hname : Leads [] [.declared name] := .declared name
  have hstate : Leads [] [.declared ("_" ++ name ++ "State")] := .declared _
  have hclass : Leads [] [.code "class "] := .code rfl
  have hend : Leads [] [.code "\x7d"] := .code rfl
  have hwidget : Calm (.block [.code "class ", .declared name, .code " extends StatefulWidget \x7b"]
      [.line [.code "const ", .declared name, .code "(\x7bsuper.key\x7d);"], blank, row "@override",
        .line [.code "State<", .declared name, .code "> createState() => ",
          .declared ("_" ++ name ++ "State"), .code "();"]]
      [.code "\x7d"]) := by
    refine .block (hclass.calm_left (hname.calm_left (.code rfl))) (.all ⟨?_, ?_, ?_, ?_⟩) hend
    · exact .around rfl hname
    · exact calm_blank
    · exact .row rfl
    · have hcreate : Leads [] [.code "> createState() => "] := .code rfl
      have hcall : Leads [] [.code "();"] := .code rfl
      have hopening : Leads [] [.code "State<"] := .code rfl
      exact hopening.calm_left (hname.calm_left (hcreate.calm_left (hstate.calm_left hcall)))
  refine .later hwidget (.later calm_blank (.only (.block ?_ ?_ hend)))
  · have hextends : Leads [] [.code " extends State<"] := .code rfl
    exact hclass.calm_left <| hstate.calm_left <| hextends.calm_left <|
      hname.calm_left (.code rfl)
  · have hdeclared : (if fields.isEmpty then [] else fields ++ [blank]).Forall Calm :=
      forall_ite trivial (List.forall_append.mpr ⟨hfields, calm_blank⟩)
    rw [List.flatMap_append]
    refine (Leads.all hdeclared).calm_left (.buildMethod (.only (.result rfl ?_)))
    refine .later (.argument rfl (.only (Calm.textRow rfl))) (.later (.row rfl) ?_)
    exact .only (.argument rfl (.only (.brackets hbody)))

/-- The links of a screen. -/
def screenLinks (s : Screen) : List Link := s.elements.flatMap elementLinks

theorem leads_screen {s : Screen} {name : String} {ls : List Layout}
    (h : (screen s name).result = .ok ls) : Leads (screenLinks s) (ls.flatMap tokens) := by
  obtain ⟨fields, widgets, hfields, hwidgets, rfl⟩ := screen_eq_ok h
  have helements : List.Forall₂ (fun e x => ∀ ls, x.result = .ok ls →
      Leads (elementLinks e) (ls.flatMap tokens)) s.elements
        (s.elements.mapIdx fun i e => positioned i e) := by
    rw [List.forall₂_iff_get]
    refine ⟨List.length_mapIdx.symm, fun i hi hi' ls hls => ?_⟩
    rw [List.get_eq_getElem, List.getElem_mapIdx] at hls
    exact leads_positioned hls
  have hbody := Leads.flatten helements hwidgets
  refine leads_screenClasses s name (List.forall_iff_forall_mem.mpr fun l hl => ?_) ?_
  · obtain ⟨i, e, hfield⟩ := exists_fieldOf hfields hl
    obtain ⟨c, hc⟩ := exists_stateField? hfield
    exact calm_stateField? hc
  · split
    · rename_i hempty
      rw [screenLinks, List.isEmpty_iff.mp hempty]
      exact .only (Leads.remark _)
    · exact hbody

/-! ## The program -/

theorem leads_classes {screens : List Screen} {names : List String} {classes : List (List Layout)}
    (hlength : names.length = screens.length)
    (h : (List.zipWith screen screens names).mapM (fun x => (id x).result) = .ok classes) :
    Leads (screens.flatMap screenLinks) ((classes.flatMap (blank :: ·)).flatMap tokens) := by
  have hscreens : List.Forall₂ (fun s x => ∀ ls, x.result = .ok ls →
      Leads (screenLinks s) (ls.flatMap tokens)) screens (List.zipWith screen screens names) := by
    rw [List.forall₂_iff_get]
    refine ⟨?_, fun i hi hi' ls hls => ?_⟩
    · rw [List.length_zipWith, hlength, Nat.min_self]
    · rw [List.get_eq_getElem, List.getElem_zipWith] at hls
      exact leads_screen hls
  have hspaced : (classes.flatMap (blank :: ·)).flatMap tokens =
      classes.flatten.flatMap tokens := by
    rw [List.flatten_eq_flatMap, List.flatMap_assoc, List.flatMap_assoc]
    rfl
  rw [hspaced]
  exact Leads.flatten hscreens h

/-- The links of a program: one for each screen in the drawer, and then those of the screens. -/
theorem links_of_designLayout {dark : Bool} {title : String} {screens : List Screen}
    {ls : List Layout} (h : (designLayout dark title screens).result = .ok ls) :
    links (lexemes ls) =
      (screens.map fun s => .replace ("/" ++ s.id)) ++ screens.flatMap screenLinks := by
  have hneat : ∀ t ∈ ls.flatMap tokens, t.Neat := by
    intro t ht
    rw [← flatten_rowsAll] at ht
    obtain ⟨r, hr, ht⟩ := List.mem_flatten.mp ht
    exact ((each_designLayout h).rows.fits r hr).neat t ht
  have hleads : Leads ((screens.map fun s => .replace ("/" ++ s.id)) ++ screens.flatMap screenLinks)
      (ls.flatMap tokens) := by
    obtain ⟨classes, hclasses, rfl⟩ := designLayout_eq_ok h
    have hnames : (assign (screens.map Screen.name)).length = screens.length := by
      rw [length_assign, List.length_map]
    have hdrawer := leads_drawer screens
    rw [programLayout, List.flatMap_append, List.flatMap_append]
    refine Leads.append (.calm_left (.all calm_preamble) ?_) (leads_classes hnames hclasses)
    refine .later calm_blank (.later (calm_app _ _ _ _) (.later calm_blank ?_))
    exact .only hdrawer
  obtain ⟨after, -, hread⟩ := hleads hneat [] tame_nil
  have hlinks := hread []
  rwa [List.append_nil, linksAfter, List.append_nil, ← lexemes_eq] at hlinks

end ScreenDesign.Dart
