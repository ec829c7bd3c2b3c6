import ScreenDesign.Proofs.Dart.SoundProgram
import ScreenDesign.Proofs.Preview.Shapes

/-!
# Two themes

The flag for the dark theme is read at two places: where a preview takes the palette of its theme,
and where a program writes the `ThemeData` of its app.  So it changes nothing but colors in a
preview (`Element.shape_preview`), and nothing but this block in a program (`exists_parts`).
`theme_changes_colors` puts both together.
-/

namespace ScreenDesign.Dart

open Layout

/-! ## The block of a theme -/

/-- The text of a layout at a depth, from where its first line begins to show something. -/
def inlineText (depth : Nat) : Layout → String
  | .line tokens => String.join (tokens.map Token.text)
  | .block opening body closing =>
      "\n".intercalate (String.join (opening.map Token.text) ::
        (linesAll (depth + 1) body ++ [lineText depth closing]))

/-- The `ThemeData` of a program, at its place in the class of the app. -/
def themeText (dark : Bool) : String := inlineText 3 (themeData dark)

example : themeText true =
    "ThemeData(\n        brightness: Brightness.dark,\n        primarySwatch: Colors.blue,\n" ++
      "        scaffoldBackgroundColor: const Color(0xFF121212),\n" ++
      "        appBarTheme: const AppBarTheme(\n          backgroundColor: Color(0xFF1E1E1E),\n" ++
      "          elevation: 0,\n        ),\n      )" := by decide +kernel

theorem toList_intercalate_concat (first : String) (lines : List String) (last : String) :
    ("\n".intercalate (first :: (lines ++ [last]))).toList =
      first.toList ++ '\n' :: (lineChars lines ++ last.toList) := by
  have hbreak := toList_intercalate_break (List.cons_ne_nil first (lines ++ [last]))
  rw [String.toList_append] at hbreak
  refine List.append_cancel_right (hbreak.trans ?_)
  simp [lineChars]

theorem lineText_comma (depth : Nat) {ts : List Token} (h : ts ≠ []) :
    (lineText depth (ts ++ [.code ","])).toList = (lineText depth ts).toList ++ [','] := by
  obtain ⟨t, ts, rfl⟩ := List.exists_cons_of_ne_nil h
  simp [lineText, Token.text]

/-- A block behind a key is its text between the key and a comma. -/
theorem lineChars_attach (depth : Nat) (key : String) {opening closing : List Token}
    (body : List Layout) (h : closing ≠ []) :
    lineChars (lines depth (attach key (.block opening body closing))) =
      (indent depth ++ (key ++ ": ")).toList ++
        ((inlineText depth (.block opening body closing)).toList ++ [',', '\n']) := by
  have hfirst : (lineText depth (.code (key ++ ": ") :: opening)).toList =
      (indent depth ++ (key ++ ": ")).toList ++ (String.join (opening.map Token.text)).toList := by
    simp [lineText, Token.text]
  have hlines : lines depth (attach key (.block opening body closing)) =
      lineText depth (.code (key ++ ": ") :: opening) ::
        (linesAll (depth + 1) body ++ [lineText depth (closing ++ [.code ","])]) := rfl
  rw [hlines, inlineText, toList_intercalate_concat]
  simp [lineChars, hfirst, lineText_comma depth h]

/-! ## Programs -/

/-- The lines of the app around its theme. -/
theorem exists_lines_app (title : String) (screens : List Screen) (names : List String) :
    ∃ before after, ∀ dark, lines 0 (app dark title screens names) =
      before ++ (lines 3 (attach "theme" (themeData dark)) ++ after) := by
  refine ⟨lineText 0 [.code "class MyApp extends StatelessWidget \x7b"] ::
    (linesAll 1 [row "const MyApp(\x7bsuper.key\x7d);", blank, row "@override"] ++
      lineText 1 [.code "Widget build(BuildContext context) \x7b"] ::
        lineText 2 [.code "return MaterialApp("] ::
          linesAll 3 [textRow "title: " title ",", row "debugShowCheckedModeBanner: false,"]),
    linesAll 3 (routes screens names) ++
      [lineText 2 [.code ");"], lineText 1 [.code "\x7d"], lineText 0 [.code "\x7d"]],
    fun dark => ?_⟩
  simp [app, buildMethod, Dart.result, lines, linesAll, braces, row, blank, textRow]

theorem linesAll_append (depth : Nat) (ls ms : List Layout) :
    linesAll depth (ls ++ ms) = linesAll depth ls ++ linesAll depth ms := by
  induction ls with
  | nil => rfl
  | cons l ls ih => rw [List.cons_append, linesAll, linesAll, ih, List.append_assoc]

theorem lineChars_append (ls ms : List String) :
    lineChars (ls ++ ms) = lineChars ls ++ lineChars ms := List.flatMap_append

/-- The source text of a program around the block of its theme. -/
theorem exists_sourceText (title : String) (screens : List Screen) (names : List String)
    (classes : List (List Layout)) :
    ∃ before after, ∀ dark, sourceText (programLayout dark title screens names classes) =
      before ++ themeText dark ++ after := by
  obtain ⟨before, after, happ⟩ := exists_lines_app title screens names
  obtain ⟨front, back, hlines⟩ : ∃ front back, ∀ dark,
      linesAll 0 (programLayout dark title screens names classes) =
        front ++ (lines 3 (attach "theme" (themeData dark)) ++ back) := by
    refine ⟨linesAll 0 (preamble ++ [blank]) ++ before,
      after ++ linesAll 0 ([blank, drawer screens] ++ classes.flatMap (blank :: ·)), fun dark => ?_⟩
    simp [programLayout, linesAll_append, linesAll, happ]
  have htheme : ∀ dark, lineChars (lines 3 (attach "theme" (themeData dark))) =
      (indent 3 ++ "theme: ").toList ++ ((themeText dark).toList ++ [',', '\n']) := by
    intro dark
    cases dark with
    | false => exact lineChars_attach 3 "theme" _ (List.cons_ne_nil _ _)
    | true => exact lineChars_attach 3 "theme" _ (List.cons_ne_nil _ _)
  refine ⟨String.ofList (lineChars front) ++ (indent 3 ++ "theme: "),
    ",\n" ++ String.ofList (lineChars back), fun dark => ?_⟩
  have hne : linesAll 0 (programLayout dark title screens names classes) ≠ [] := nofun
  rw [← String.toList_inj, sourceText, toList_intercalate_break hne, hlines, lineChars_append,
    lineChars_append, htheme]
  simp only [String.toList_append, String.toList_ofList, List.append_assoc]
  rfl

/-- The two programs of a design come from the same parts: one text for both in front of the
theme, one behind it, and the same warnings.  The parts leave notices, and they may fail. -/
theorem exists_parts (title : String) (screens : List Screen) :
    ∃ parts : Logged (String × String × List Warning), ∀ dark,
      program dark title screens =
        (fun (before, after, found) => ⟨before ++ themeText dark ++ after, found⟩) <$> parts := by
  have htexts (classes : List (List Layout)) :=
    exists_sourceText title screens (assign (screens.map Screen.name)) classes
  choose before after htext using htexts
  refine ⟨do
    let found ← warnings screens
    Logged.ofNoted ⟨(), found.map Warning.notice⟩
    let classes ← (List.zipWith screen screens (assign (screens.map Screen.name))).mapM id
    Logged.note .generator .debug ("Generated " ++ screens.length.repr ++ " screen(s)")
    pure (before classes, after classes, found), fun dark => ?_⟩
  simp only [program, map_bind, map_pure, htext]

/-! ## Previews and programs -/

/-- The flag for the dark theme changes only colors.  The previews of an element with and without
it leave the same notices, and both fail in the same way or have the same shape.  The programs of
a design with and without it leave the same notices, and both fail in the same way or have the
same warnings and the same text but for the block of the theme. -/
theorem theme_changes_colors (e : Element) (title : String) (screens : List Screen) :
    ((e.preview (Theme.of true)).notices = (e.preview (Theme.of false)).notices ∧
      ((∃ f, (e.preview (Theme.of true)).result = .error f ∧
          (e.preview (Theme.of false)).result = .error f) ∨
        ∃ n m, (e.preview (Theme.of true)).result = .ok n ∧
          (e.preview (Theme.of false)).result = .ok m ∧ n.shape = m.shape)) ∧
    (program true title screens).notices = (program false title screens).notices ∧
      ((∃ f, (program true title screens).result = .error f ∧
          (program false title screens).result = .error f) ∨
        ∃ before after found,
          (program true title screens).result = .ok ⟨before ++ themeText true ++ after, found⟩ ∧
          (program false title screens).result =
            .ok ⟨before ++ themeText false ++ after, found⟩) := by
  obtain ⟨parts, hparts⟩ := exists_parts title screens
  have hshape := e.shape_preview (Theme.of true) (Theme.of false)
  refine ⟨⟨?_, ?_⟩, ?_, ?_⟩
  · have := congrArg Logged.notices hshape
    rwa [Logged.notices_map, Logged.notices_map] at this
  · have := congrArg Logged.result hshape
    rw [Logged.result_map, Logged.result_map] at this
    exact alike_of_map_eq this
  · rw [hparts, hparts, Logged.notices_map, Logged.notices_map]
  · rw [hparts, hparts, Logged.result_map, Logged.result_map]
    cases parts.result with
    | error f => exact .inl ⟨f, rfl, rfl⟩
    | ok p => exact .inr ⟨p.1, p.2.1, p.2.2, rfl, rfl⟩

end ScreenDesign.Dart
