import ScreenDesign.Preview.Canvas
import ScreenDesign.Proofs.Dart.SightsWidget
import ScreenDesign.Proofs.Preview.Sights

/-!
# Preview and program show the same

Whatever the property bag of an element holds, its preview and its widget show the
same content (`Element.same_content`): the same icons, choices, tables and routes in
the same order, and every caption of the preview is a literal in the source text.

Both start from one `Content`.  The preview draws its sights and a little more
(`Content.drawn`), and the source text is read back to its sights
(`Dart.shows_widget`), so only the few differences are left to be compared.
-/

namespace ScreenDesign

open Dart (InCode elementWidget sourceText unbroken unbrokenSight)

/-! ## Kinds of sights -/

namespace Sight

variable (sights : List Sight)

/-- Only the names of icons change when they end with their line. -/
theorem filterMap_unbroken {α : Type} {f : Sight → Option α} (hf : ∀ name, f (.icon name) = none) :
    (sights.map unbrokenSight).filterMap f = sights.filterMap f := by
  rw [List.filterMap_map]
  refine List.filterMap_congr fun s _ => ?_
  cases s with
  | icon name => exact (hf _).trans (hf _).symm
  | _ => rfl

theorem icons_unbroken : icons (sights.map unbrokenSight) = (icons sights).map unbroken := by
  induction sights with
  | nil => rfl
  | cons s sights ih => cases s <;> simp_all [icons, unbrokenSight]

theorem cells_unbroken : cells (sights.map unbrokenSight) = cells sights := by
  induction sights with
  | nil => rfl
  | cons s sights ih => cases s <;> simp_all [cells, unbrokenSight]

theorem rows_unbroken : rows (sights.map unbrokenSight) = rows sights := by
  induction sights with
  | nil => rfl
  | cons s sights ih => cases s <;> simp_all [rows, unbrokenSight, cells_unbroken]

theorem rows_append_of_noRow {ss : List Sight} (h : .row ∉ ss) : rows (ss ++ sights) = rows sights := by
  induction ss with
  | nil => rfl
  | cons s ss ih =>
      obtain ⟨hs, hss⟩ := not_or.mp (mt List.mem_cons.mpr h)
      cases s <;> simp_all [rows]

theorem cells_append_headings (texts : List String) :
    cells (texts.map .heading ++ sights) = cells sights := by
  induction texts with
  | nil => rfl
  | cons s texts ih => exact ih

theorem cells_append_cells (texts : List String) :
    cells (texts.map .cell ++ sights) = texts ++ cells sights := by
  induction texts with
  | nil => rfl
  | cons s texts ih => exact congrArg (s :: ·) ih

end Sight

/-! ## What is drawn -/

namespace Content

/-- The placeholder of a dropdown. -/
def placeholder : Content → String
  | .dropdown d => d.placeholder
  | _ => ""

/-- Whether a content is a table that shows its head. -/
def isHeaded : Content → Bool
  | .grid g => g.showHeader
  | _ => false

/-- The texts of a table, row by row. -/
def cellTexts (g : Grid) : List (List String) :=
  g.table.rows.map fun row => g.table.columns.map (cellText row)

theorem rows_bodySights (g : Grid) : Sight.rows (bodySights g) = cellTexts g := by
  rw [bodySights, cellTexts]
  induction g.table.rows with
  | nil => rfl
  | cons row rows ih =>
      have hcells : g.table.columns.map (fun c => Sight.cell (cellText row c)) =
          (g.table.columns.map (cellText row)).map .cell := List.map_map.symm
      have hend : Sight.cells (rows.flatMap fun row =>
          .row :: g.table.columns.map fun c => .cell (cellText row c)) = [] := by
        cases rows <;> rfl
      rw [List.flatMap_cons, List.cons_append, Sight.rows, hcells, Sight.cells_append_cells, hend,
        List.append_nil, Sight.rows_append_of_noRow _ (by simp), ih, List.map_cons]

theorem rows_sights_grid (g : Grid) : Sight.rows (sights (.grid g)) = cellTexts g := by
  rw [sights, Sight.rows_append_of_noRow _ (by simp), rows_bodySights]

/-- The head of a table is a row without cells. -/
theorem cells_sights_grid (g : Grid) : Sight.cells (sights (.grid g)) = [] := by
  have hheads : g.table.columns.map (fun c => Sight.heading c.title) =
      (g.table.columns.map Column.title).map .heading := List.map_map.symm
  rw [sights, hheads, Sight.cells_append_headings, bodySights]
  cases g.table.rows <;> rfl

theorem headings_bodySights (g : Grid) : Sight.headings (bodySights g) = [] := by
  refine List.filterMap_eq_nil_iff.mpr fun s hs => ?_
  obtain ⟨row, -, hs⟩ := List.mem_flatMap.mp hs
  rcases List.mem_cons.mp hs with rfl | hs
  · rfl
  · obtain ⟨c, -, rfl⟩ := List.mem_map.mp hs
    rfl

/-- What a table without its head shows as a kind of sight that heads are not. -/
theorem filterMap_drawn_grid {α : Type} {f : Sight → Option α} (g : Grid)
    (hrow : f .row = none) (hheading : ∀ s, f (.heading s) = none) :
    (drawn (.grid g)).filterMap f = (sights (.grid g)).filterMap f := by
  have hheads : (g.table.columns.map fun c => Sight.heading c.title).filterMap f = [] := by
    simp [hheading]
  rw [drawn]
  split
  · exact List.filterMap_cons_none hrow
  · rw [sights, List.filterMap_append, hheads, List.nil_append]

theorem icons_drawn (c : Content) : Sight.icons c.drawn = Sight.icons c.sights := by
  cases c with
  | dropdown d =>
      rw [drawn, placeholderSights]
      split
      · rfl
      · rfl
  | grid g => exact filterMap_drawn_grid g rfl fun _ => rfl
  | _ => rfl

theorem routes_drawn (c : Content) : Sight.routes c.drawn = Sight.routes c.sights := by
  cases c with
  | dropdown d =>
      rw [drawn, placeholderSights]
      split
      · rfl
      · rfl
  | grid g => exact filterMap_drawn_grid g rfl fun _ => rfl
  | _ => rfl

theorem items_drawn (c : Content) :
    Sight.items c.drawn =
      (nonEmpty? c.placeholder).toList.map (fun s => ("", s)) ++ Sight.items c.sights := by
  cases c with
  | dropdown d =>
      rw [drawn, placeholderSights, placeholder, nonEmpty?]
      split
      · rfl
      · rfl
  | grid g => exact filterMap_drawn_grid g rfl fun _ => rfl
  | _ => rfl

theorem headings_drawn {c : Content} (h : c.isHeaded = true) :
    Sight.headings c.drawn = Sight.headings c.sights := by
  cases c with
  | grid g =>
      rw [isHeaded] at h
      rw [drawn, if_pos h]
      rfl
  | _ => cases h

/-- Only tables have rows. -/
theorem row_not_mem_sights {c : Content} (h : ∀ g, c ≠ .grid g) : .row ∉ c.sights := by
  cases c with
  | grid g => exact absurd rfl (h g)
  | list l => simp [sights]
  | _ => simp [sights]

theorem rows_sights {c : Content} (h : ∀ g, c ≠ .grid g) : Sight.rows c.sights = [] := by
  have := Sight.rows_append_of_noRow [] (row_not_mem_sights h)
  rwa [List.append_nil] at this

theorem rows_drawn (c : Content) :
    Sight.rows c.drawn = (if c.isHeaded then [[]] else []) ++ Sight.rows c.sights := by
  cases c with
  | grid g =>
      rw [drawn, isHeaded, rows_sights_grid]
      cases g.showHeader with
      | true => exact congrArg₂ List.cons (cells_sights_grid g) (rows_sights_grid g)
      | false => exact rows_bodySights g
  | dropdown d =>
      have hplaceholder : .row ∉ placeholderSights d.placeholder := by
        rw [placeholderSights]
        split <;> simp
      rw [drawn, Sight.rows_append_of_noRow _ hplaceholder]
      rfl
  | _ => rfl

/-- Every row of a table has one cell for each column. -/
theorem length_of_mem_rows {c : Content} : ∀ row ∈ Sight.rows c.sights,
    row.length = (Sight.headings c.sights).length := by
  cases c with
  | grid g =>
      have hheadings : Sight.headings (sights (.grid g)) = g.table.columns.map Column.title := by
        have hbody := headings_bodySights g
        rw [Sight.headings] at hbody ⊢
        rw [sights, List.filterMap_append, hbody, List.append_nil, List.filterMap_map]
        exact congrFun List.filterMap_eq_map g.table.columns
      rw [rows_sights_grid, hheadings]
      intro row hrow
      obtain ⟨cells, -, rfl⟩ := List.mem_map.mp hrow
      rw [List.length_map, List.length_map]
  | _ =>
      rw [rows_sights (by rintro g ⟨⟩)]
      intro row hrow
      cases hrow

/-- The placeholder and the head of a content are those of its record. -/
theorem of_ofRecord {t : ComponentType} {r : Record} {c : Content}
    (h : (ofRecord t r).result = .ok c) :
    c.placeholder = (if t = .dropdown then r.text "placeholder" else "") ∧
      c.isHeaded = (t = .dynamicTable && r.flag "showHeader") := by
  cases t with
  | list =>
      rw [ofRecord, Logged.result_bind, bind_eq_ok] at h
      obtain ⟨items, -, h⟩ := h
      cases h
      exact ⟨rfl, rfl⟩
  | dropdown =>
      rw [ofRecord, Logged.result_bind, bind_eq_ok] at h
      obtain ⟨choices, -, h⟩ := h
      cases h
      exact ⟨rfl, rfl⟩
  | dynamicTable =>
      rw [ofRecord, Logged.result_bind, bind_eq_ok] at h
      obtain ⟨table, -, h⟩ := h
      cases h
      exact ⟨rfl, rfl⟩
  | _ => cases h; exact ⟨rfl, rfl⟩

end Content

/-! ## The same content -/

theorem unbroken_of_oneLine {s : String} (h : '\n' ∉ s.toList) : unbroken s = s := by
  rw [unbroken, Icon.dropBreak, if_neg, String.ofList_toList]
  intro hlast
  exact h (List.mem_of_getLast? hlast)

/-- A preview of an element with a type and a record, and source text with its sights,
that show the same. -/
structure SameContent (t : ComponentType) (r : Record) (n : Node) (source : String)
    (found : List Sight) : Prop where
  /-- The same icons, unless the name of one has a line break in it. -/
  icons : (∀ name ∈ Sight.icons n.sights, '\n' ∉ name.toList) →
    Sight.icons n.sights = Sight.icons found
  /-- The same choices, behind the placeholder of a dropdown. -/
  items : Sight.items n.sights =
    (if t = .dropdown then (nonEmpty? (r.text "placeholder")).toList.map fun s => ("", s) else []) ++
      Sight.items found
  /-- The same heads of columns, where a table shows its head. -/
  headings : t = .dynamicTable → r.flag "showHeader" = true →
    Sight.headings n.sights = Sight.headings found
  /-- The same cells, row by row.  The row of the heads has none. -/
  rows : Sight.rows n.sights =
    (if t = .dynamicTable && r.flag "showHeader" then [[]] else []) ++ Sight.rows found
  /-- One cell for each column. -/
  lengths : ∀ row ∈ Sight.rows found, row.length = (Sight.headings found).length
  /-- Every caption is a literal. -/
  captions : ∀ s ∈ n.captions, InCode source (Dart.literal s)
  /-- A button leads somewhere if and only if the program goes there. -/
  routes : ∀ id, (∃ m ∈ n.walk, m.tag = "button" ∧ m.attrs.get? "navigateTo" = some (.text id)) ↔
    "/" ++ id ∈ Sight.routes found

theorem Node.textAttr?_eq_some_iff {n : Node} {key s : String} :
    n.textAttr? key = some s ↔ n.attrs.get? key = some (.text s) := by
  rw [textAttr?]
  cases n.attrs.get? key with
  | none => simp
  | some j => cases j <;> simp

theorem Node.sight?_eq_route_iff {n : Node} {path : String} :
    n.sight? = some (.route path) ↔
      n.tag = "button" ∧ ∃ id, n.textAttr? "navigateTo" = some id ∧ "/" ++ id = path := by
  rw [sight?]
  split
  · simp_all
  split
  · simp_all
  split
  · rename_i htag
    simp [htag, Option.bind_eq_some_iff]
  split
  · simp_all
  split
  · simp_all
  split
  · simp_all
  · simp_all

/-- The routes of a preview are where its buttons lead. -/
theorem Node.mem_routes_iff {n : Node} {id : String} :
    "/" ++ id ∈ Sight.routes n.sights ↔
      ∃ m ∈ n.walk, m.tag = "button" ∧ m.attrs.get? "navigateTo" = some (.text id) := by
  have hroute : "/" ++ id ∈ Sight.routes n.sights ↔ .route ("/" ++ id) ∈ n.sights := by
    rw [Sight.routes, List.mem_filterMap]
    refine ⟨fun ⟨s, hs, hid⟩ => ?_, fun h => ⟨_, h, rfl⟩⟩
    cases s with
    | route path => cases hid; exact hs
    | _ => cases hid
  rw [hroute, sights, List.mem_filterMap]
  refine exists_congr fun m => and_congr_right fun _ => ?_
  rw [sight?_eq_route_iff]
  refine and_congr_right fun _ => ⟨?_, fun h => ⟨id, textAttr?_eq_some_iff.mpr h, rfl⟩⟩
  rintro ⟨other, hother, heq⟩
  rw [(String.append_right_inj "/").mp heq] at hother
  exact textAttr?_eq_some_iff.mp hother

/-- The lexemes of a widget show the sights of its content. -/
theorem sights_lexemes {index : Int} {c : Content} {l : Dart.Layout}
    (hicons : ∀ name ∈ Dart.iconNames c, Dart.IconName name) (h : Dart.widget index c = .ok l) :
    Dart.sights (Dart.lexemes [l]) = c.sights.map unbrokenSight := by
  have hshows := Dart.shows_widget index hicons
  rw [h] at hshows
  have hread := hshows []
  have hlexemes : Dart.lexemes [l] = Dart.rowLexemes l.tokens := by
    rw [Dart.lexemes_eq, List.flatMap_singleton]
  rwa [List.append_nil, Dart.sights, List.append_nil, ← hlexemes] at hread

/-- What is drawn of a content and what is read back from its widget are the same. -/
theorem sameContent_of_content {t : ComponentType} {r : Record} {c : Content} {n : Node}
    {source : String} (hc : (Content.ofRecord t r).result = .ok c) (hn : n.sights = c.drawn)
    (hcaptions : ∀ s ∈ n.captions, InCode source (Dart.literal s)) :
    SameContent t r n source (c.sights.map unbrokenSight) := by
  obtain ⟨hplaceholder, hheaded⟩ := Content.of_ofRecord hc
  constructor
  case icons =>
    intro hbreaks
    have hsame : ∀ name ∈ Sight.icons c.sights, unbroken name = name := by
      intro name hname
      rw [hn, Content.icons_drawn] at hbreaks
      exact unbroken_of_oneLine (hbreaks name hname)
    rw [hn, Content.icons_drawn, Sight.icons_unbroken, List.map_congr_left hsame, List.map_id']
  case items =>
    rw [hn, Content.items_drawn, hplaceholder, Sight.items, Sight.items,
      Sight.filterMap_unbroken _ fun _ => rfl]
    split
    · rfl
    · rfl
  case headings =>
    intro htable hshown
    rw [htable, hshown] at hheaded
    rw [hn, Content.headings_drawn hheaded, Sight.headings, Sight.headings,
      Sight.filterMap_unbroken _ fun _ => rfl]
  case rows => rw [hn, Content.rows_drawn, hheaded, Sight.rows_unbroken]
  case lengths =>
    rw [Sight.rows_unbroken, Sight.headings, Sight.filterMap_unbroken _ fun _ => rfl]
    exact Content.length_of_mem_rows
  case captions => exact hcaptions
  case routes =>
    intro id
    rw [← Node.mem_routes_iff, hn, Content.routes_drawn, Sight.routes, Sight.routes,
      Sight.filterMap_unbroken _ fun _ => rfl]

/-- The preview and the widget of an element show the same, in either theme and
whatever its property bag holds. -/
theorem Element.same_content (dark : Bool) (index : Int) {e : Element} {n : Node} {l : Dart.Layout}
    (hn : (e.preview (Theme.of dark)).result = .ok n)
    (hl : (elementWidget index e).result = .ok l) :
    ∃ r xs, e.record.result = .ok r ∧ Dart.scan (sourceText [l]) = some xs ∧
      SameContent e.type r n (sourceText [l]) (Dart.sights xs) := by
  rw [Element.preview, Logged.result_bind, bind_eq_ok] at hn
  obtain ⟨c, hc, hn⟩ := hn
  obtain ⟨c', hc', hwidget⟩ := Dart.exists_content hl
  obtain rfl : c = c' := Except.ok.inj (hc.symm.trans hc')
  have hread := sights_lexemes (Dart.iconName_of_mem_iconNames hc) hwidget
  have hrows : ∀ row ∈ Dart.Layout.rowsAll [l], Dart.IsRow true row := by
    have hsound : Dart.Each true [l] := ⟨(Dart.sound_elementWidget hl).allowed, trivial⟩
    exact hsound.rows.fits
  rw [Element.content, Logged.result_bind, bind_eq_ok] at hc
  obtain ⟨r, hr, hc⟩ := hc
  refine ⟨r, Dart.lexemes [l], hr, Dart.scan_sourceText hrows, ?_⟩
  rw [hread]
  refine sameContent_of_content hc (Paint.sights_of_content hn) fun s hs => ?_
  rw [Paint.captions_of_content hn] at hs
  exact Dart.inCode_of_mem_tokens (t := .literal s) hl (Dart.literal_mem_tokens hwidget hs)

/-- A button with a target and a text that needs escapes. -/
def linkButton : Element :=
  ⟨"next", .button, 0, 0, 100, 40, [("text", .text "it's $5"), ("navigateTo", .text "home")]⟩

theorem same_content_of_link :
    ∃ n l r xs, (linkButton.preview (Theme.of true)).result = .ok n ∧
      (elementWidget 0 linkButton).result = .ok l ∧
      Dart.scan (sourceText [l]) = some xs ∧
      SameContent .button r n (sourceText [l]) (Dart.sights xs) ∧
      "it's $5" ∈ n.captions ∧ InCode (sourceText [l]) (Dart.literal "it's $5") ∧
      "/home" ∈ Sight.routes (Dart.sights xs) := by
  obtain ⟨n, hn, hcaption, hbutton⟩ : ∃ n, (linkButton.preview (Theme.of true)).result = .ok n ∧
      "it's $5" ∈ n.captions ∧
      ∃ m ∈ n.walk, m.tag = "button" ∧ m.attrs.get? "navigateTo" = some (.text "home") :=
    ⟨_, rfl, List.mem_cons_self, _, List.mem_cons_self, rfl, rfl⟩
  obtain ⟨l, hl⟩ : ∃ l, (elementWidget 0 linkButton).result = .ok l := ⟨_, rfl⟩
  obtain ⟨r, xs, -, hscan, hsame⟩ := Element.same_content true 0 hn hl
  exact ⟨n, l, r, xs, hn, hl, hscan, hsame, hcaption, hsame.captions _ hcaption,
    (hsame.routes "home").mp hbutton⟩

end ScreenDesign
