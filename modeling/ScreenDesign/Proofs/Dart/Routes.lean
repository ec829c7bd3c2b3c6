import Mathlib.Data.List.Basic
import ScreenDesign.Proofs.Dart.Sights
import ScreenDesign.Proofs.Dart.Tokens

/-!
# The routes of a program

A program has one table of routes, in the class of its app.  It is read off the lexemes of the
source text, behind the first place with the code that opens it (`routeTable?`).  The route that
is shown first is read in the same way (`initialRoute?`).

What comes before the routes is fixed but for the title and the theme, and none of it is taken
for the code that is looked for (`Passes`).  So the table is the one that is written: a key for
each screen, with the class of the screen (`routeTable?_program`).
-/

namespace ScreenDesign.Dart

open Layout

/-! ## Reading -/

/-- The lexemes behind the first place with some code. -/
def behind? (key : List Char) : List Lexeme → Option (List Lexeme)
  | [] => none
  | l :: ls => (dropCode? key (l :: ls)).or (behind? key ls)

/-- The literal at the start of lexemes. -/
def literalAt? : List Lexeme → Option String
  | .literal s :: _ => some s
  | _ => none

/-- The code at the start of lexemes, up to a character. -/
def codeUntil (d : Char) : List Lexeme → List Char
  | .code c :: ls => if c = d then [] else c :: codeUntil d ls
  | _ => []

/-- The class of an entry, behind its key. -/
def entryClass? (ls : List Lexeme) : Option String :=
  (dropCode? ":(context)=>const".toList ls).map fun rest => String.ofList (codeUntil '(' rest)

/-- The entries of a table up to its end, each a key with a class. -/
def entries? : List Lexeme → Option (List (String × String))
  | [] => none
  | .code c :: ls => if c = '\x7d' then some [] else entries? ls
  | .literal key :: ls =>
      (entryClass? ls).bind fun name => (entries? ls).map ((key, name) :: ·)
  | .comment _ :: ls => entries? ls

/-- What stands in front of the first route. -/
def initialKey : List Char := ['i', 'n', 'i', 't', 'i', 'a', 'l', 'R', 'o', 'u', 't', 'e', ':']

/-- What opens the table of routes. -/
def tableKey : List Char := ['r', 'o', 'u', 't', 'e', 's', ':', '\x7b']

/-- The route that is shown first, if there is one. -/
def initialRoute? (ls : List Lexeme) : Option String := (behind? initialKey ls).bind literalAt?

/-- The table of routes.  Without one there are no entries. -/
def routeTable? (ls : List Lexeme) : Option (List (String × String)) :=
  (behind? tableKey ls).elim (some []) entries?

/-! ## Passing by -/

/-- Whether some code can begin nowhere in a text without white space, whatever follows. -/
def isFree (key : List Char) : List Char → Bool
  | [] => true
  | c :: cs => differ key (c :: cs) && isFree key cs

theorem behind?_of_isFree {key cs : List Char} (h : isFree key cs = true) (rest : List Lexeme) :
    behind? key (cs.map .code ++ rest) = behind? key rest := by
  induction cs with
  | nil => rfl
  | cons c cs ih =>
      rw [isFree, Bool.and_eq_true] at h
      have hnone : dropCode? key (.code c :: (cs.map .code ++ rest)) = none :=
        dropCode?_of_differ h.1 rest
      rw [List.map_cons, List.cons_append, behind?, hnone, ih h.2]
      rfl

/-- Tokens in which some code is not found, whatever follows. -/
def Passes (key : List Char) (ts : List Token) : Prop :=
  ∀ rest, behind? key (rowLexemes ts ++ rest) = behind? key rest

namespace Passes

variable {k : Char} {key : List Char} {ts us : List Token} {cs : List Char}

theorem nil : Passes key [] := fun _ => rfl

theorem append (hts : Passes key ts) (hus : Passes key us) : Passes key (ts ++ us) := by
  intro rest
  rw [rowLexemes_append, List.append_assoc, hts, hus]

theorem all (h : ts.Forall fun t => Passes key [t]) : Passes key ts := by
  induction ts with
  | nil => exact nil
  | cons t ts ih =>
      rw [List.forall_cons] at h
      exact h.1.append (ih h.2)

theorem code (h : isFree key (visible cs) = true) : Passes key [.code (String.ofList cs)] := by
  intro rest
  rw [rowLexemes, List.flatMap_singleton, lexemes_code, behind?_of_isFree h]

theorem literal (s : String) : Passes (k :: key) [.literal s] := fun _ => rfl

end Passes

/-! ## In front of the routes -/

/-- The end of the app, behind its routes. -/
def appEnd : List Token := [.code ");", .code "\x7d", .code "\x7d"]

section

variable {key : List Char} (hkey : key = initialKey ∨ key = tableKey)

include hkey

theorem passes_preamble : Passes key (preamble.flatMap tokens) := by
  have htokens : preamble.flatMap tokens =
      [.code "import ", .literal "package:flutter/material.dart", .code ";",
        .code "void main() \x7b", .code "runApp(const MyApp());", .code "\x7d"] := by
    simp [preamble, blank]
  rw [htokens]
  rcases hkey with rfl | rfl <;>
    exact .all ⟨.code rfl, .literal _, .code rfl, .code rfl, .code rfl, .code rfl⟩

theorem passes_themeData (dark : Bool) : Passes key (themeData dark).tokens := by
  cases dark with
  | true =>
      have htokens : (themeData true).tokens =
          [.code "ThemeData(", .code "brightness: Brightness.dark,",
            .code "primarySwatch: Colors.blue,",
            .code "scaffoldBackgroundColor: const Color(0xFF121212),",
            .code "appBarTheme: const AppBarTheme(", .code "backgroundColor: Color(0xFF1E1E1E),",
            .code "elevation: 0,", .code "),", .code ")"] := by
        simp [themeData]
      rw [htokens]
      rcases hkey with rfl | rfl <;>
        exact .all ⟨.code rfl, .code rfl, .code rfl, .code rfl, .code rfl, .code rfl, .code rfl,
          .code rfl, .code rfl⟩
  | false =>
      have htokens : (themeData false).tokens =
          [.code "ThemeData(", .code "brightness: Brightness.light,",
            .code "primarySwatch: Colors.blue,", .code "scaffoldBackgroundColor: Colors.white,",
            .code "appBarTheme: const AppBarTheme(", .code "backgroundColor: Colors.white,",
            .code "foregroundColor: Colors.black,", .code "elevation: 0,", .code "),",
            .code ")"] := by
        simp [themeData]
      rw [htokens]
      rcases hkey with rfl | rfl <;>
        exact .all ⟨.code rfl, .code rfl, .code rfl, .code rfl, .code rfl, .code rfl, .code rfl,
          .code rfl, .code rfl, .code rfl⟩

/-- The routes stand in the class of the app, behind the title and the theme. -/
theorem exists_passes_app (dark : Bool) (title : String) (screens : List Screen)
    (names : List String) :
    ∃ head, Passes key head ∧ (app dark title screens names).tokens =
      head ++ ((routes screens names).flatMap tokens ++ appEnd) := by
  have hopening : Passes key
      [.code "class MyApp extends StatelessWidget \x7b", .code "const MyApp(\x7bsuper.key\x7d);",
        .code "@override", .code "Widget build(BuildContext context) \x7b",
        .code "return MaterialApp(", .code "title: ", .literal title, .code ",",
        .code "debugShowCheckedModeBanner: false,", .code "theme: "] := by
    rcases hkey with rfl | rfl <;>
      exact .all ⟨.code rfl, .code rfl, .code rfl, .code rfl, .code rfl, .code rfl, .literal _,
        .code rfl, .code rfl, .code rfl⟩
  have hcomma : Passes key [.code ","] := by
    rcases hkey with rfl | rfl <;> exact @Passes.code _ [','] rfl
  refine ⟨_, (hopening.append (passes_themeData hkey dark)).append hcomma, ?_⟩
  simp [app, buildMethod, Dart.result, blank, appEnd]

end

/-! ## The routes -/

theorem dropCode?_self (key : List Char) (rest : List Lexeme) :
    dropCode? key (key.map .code ++ rest) = some rest := by
  induction key with
  | nil => rfl
  | cons k key ih => simpa [dropCode?] using ih

theorem behind?_self {key : List Char} (hne : key ≠ []) (rest : List Lexeme) :
    behind? key (key.map .code ++ rest) = some rest := by
  have hdrop := dropCode?_self key rest
  cases key with
  | nil => exact absurd rfl hne
  | cons k key =>
      rw [List.map_cons, List.cons_append] at hdrop ⊢
      rw [behind?, hdrop]
      rfl

theorem codeUntil_append {d : Char} {cs : List Char} (h : d ∉ cs) (rest : List Lexeme) :
    codeUntil d (cs.map .code ++ .code d :: rest) = cs := by
  induction cs with
  | nil => simp [codeUntil]
  | cons c cs ih =>
      obtain ⟨hc, hcs⟩ := not_or.mp (mt List.mem_cons.mpr h)
      simp [codeUntil, Ne.symm hc, ih hcs]

theorem entries?_code {cs : List Char} (h : '\x7d' ∉ cs) (rest : List Lexeme) :
    entries? (cs.map .code ++ rest) = entries? rest := by
  induction cs with
  | nil => rfl
  | cons c cs ih =>
      obtain ⟨hc, hcs⟩ := not_or.mp (mt List.mem_cons.mpr h)
      simp [entries?, Ne.symm hc, ih hcs]

/-- The path of the route of a screen. -/
def path (s : Screen) : String := "/" ++ s.id

/-- A name of letters and digits has no white space. -/
theorem visible_wordName {name : String} (h : WordName name) :
    visible name.toList = name.toList := visible_eq_self rfl h

/-- The lexemes of an entry: its key, and the code with the class. -/
theorem lexemes_routeEntry (s : Screen) {name : String} (h : WordName name) :
    rowLexemes (routeEntry s name).tokens =
      .literal (path s) :: (":(context)=>const".toList.map .code ++
        (name.toList.map .code ++ "(),".toList.map .code)) := by
  have hbefore : (Token.code ": (context) => const ").lexemes =
      ":(context)=>const".toList.map .code := by decide
  have hname : (Token.declared name).lexemes = name.toList.map .code := by
    rw [lexemes_declared, visible_wordName h]
  have hafter : (Token.code "(),").lexemes = "(),".toList.map .code := by decide
  rw [routeEntry, tokens_line, rowLexemes, List.flatMap_cons, List.flatMap_cons, List.flatMap_cons,
    List.flatMap_singleton, hbefore, hname, hafter]
  rfl

/-- An entry of the table is read as its key and its class. -/
theorem entries?_routeEntry (s : Screen) {name : String} (h : WordName name)
    (rest : List Lexeme) :
    entries? (rowLexemes (routeEntry s name).tokens ++ rest) =
      (entries? rest).map ((path s, name) :: ·) := by
  have hopen : '(' ∉ name.toList := fun hmem => absurd (h _ hmem) (by decide)
  have hclose : '\x7d' ∉ name.toList := fun hmem => absurd (h _ hmem) (by decide)
  have hcall : "(),".toList.map Lexeme.code = .code '(' :: ([')', ','].map .code) := by decide
  rw [lexemes_routeEntry s h, List.cons_append, List.append_assoc, List.append_assoc, entries?,
    entryClass?, dropCode?_self, entries?_code (by decide), entries?_code hclose,
    entries?_code (by decide)]
  simp only [hcall, List.cons_append]
  rw [Option.map_some, codeUntil_append hopen, String.ofList_toList]
  rfl

/-- The table ends with its brace. -/
theorem entries?_zipWith {screens : List Screen} {names : List String}
    (h : ∀ n ∈ names, WordName n) (rest : List Lexeme) :
    entries? (rowLexemes ((List.zipWith routeEntry screens names).flatMap tokens) ++
        .code '\x7d' :: rest) = some ((screens.map path).zip names) := by
  induction screens generalizing names with
  | nil => rfl
  | cons s screens ih =>
      cases names with
      | nil => rfl
      | cons name names =>
          obtain ⟨hname, hnames⟩ := List.forall_mem_cons.mp h
          rw [List.zipWith_cons_cons, List.flatMap_cons, rowLexemes_append, List.append_assoc,
            entries?_routeEntry s hname, ih hnames]
          rfl

/-! ## The program -/

/-- What stands in front of the routes is passed by. -/
theorem behind?_programLayout {key : List Char} (hkey : key = initialKey ∨ key = tableKey)
    (dark : Bool) (title : String) (screens : List Screen) (names : List String)
    (classes : List (List Layout)) :
    behind? key (lexemes (programLayout dark title screens names classes)) =
      behind? key (rowLexemes ((routes screens names).flatMap tokens) ++
        rowLexemes (appEnd ++
          ((drawer screens).tokens ++ (classes.flatMap (blank :: ·)).flatMap tokens))) := by
  obtain ⟨head, hhead, happ⟩ := exists_passes_app hkey dark title screens names
  have htokens : (programLayout dark title screens names classes).flatMap tokens =
      (preamble.flatMap tokens ++ head) ++ ((routes screens names).flatMap tokens ++ (appEnd ++
        ((drawer screens).tokens ++ (classes.flatMap (blank :: ·)).flatMap tokens))) := by
    have hblank : blank.tokens = [] := tokens_line []
    simp [programLayout, happ, hblank]
  rw [lexemes_eq, htokens, rowLexemes_append, (passes_preamble hkey).append hhead,
    rowLexemes_append]

/-- A program without screens has no routes. -/
theorem behind?_programLayout_nil {key : List Char} (hkey : key = initialKey ∨ key = tableKey)
    (dark : Bool) (title : String) :
    behind? key (lexemes (programLayout dark title [] [] [])) = none := by
  have hhome : Passes key ((routes [] []).flatMap tokens ++ appEnd) := by
    rcases hkey with rfl | rfl <;> exact .all ⟨.code rfl, .code rfl, .code rfl, .code rfl⟩
  have hdrawer : Passes key (drawer []).tokens := by
    have htokens : (drawer []).tokens =
        [.code "class AppSidebar extends StatelessWidget \x7b",
          .code "const AppSidebar(\x7bsuper.key\x7d);", .code "@override",
          .code "Widget build(BuildContext context) \x7b", .code "return Drawer(",
          .code "child: ListView(", .code "children: [", .code "const DrawerHeader(",
          .code "child: Text(", .literal "Screens", .code ",", .code "style: TextStyle(",
          .code "  fontSize: 24, fontWeight: FontWeight.bold),", .code "),", .code "),",
          .code "],", .code "),", .code ");", .code "\x7d", .code "\x7d"] := by
      simp [drawer, buildMethod, Dart.result, drawerHeader, blank]
    rw [htokens]
    rcases hkey with rfl | rfl <;>
      exact .all ⟨.code rfl, .code rfl, .code rfl, .code rfl, .code rfl, .code rfl, .code rfl,
        .code rfl, .code rfl, .literal _, .code rfl, .code rfl, .code rfl, .code rfl, .code rfl,
        .code rfl, .code rfl, .code rfl, .code rfl, .code rfl⟩
  have hend := (hhome.append hdrawer) []
  rw [List.append_nil, List.append_assoc, rowLexemes_append] at hend
  rw [behind?_programLayout hkey, List.flatMap_nil, List.flatMap_nil, List.append_nil]
  exact hend

/-- The row with the first route. -/
def initialRow (first : Screen) : List Token :=
  [.code "initialRoute: ", .literal (path first), .code ","]

theorem tokens_routes (first : Screen) (rest : List Screen) (names : List String) :
    (routes (first :: rest) names).flatMap tokens =
      initialRow first ++ .code "routes: \x7b" ::
        ((List.zipWith routeEntry (first :: rest) names).flatMap tokens ++ [.code "\x7d,"]) := by
  simp [routes, route, initialRow, path]

section

variable {dark : Bool} {title : String} {screens : List Screen} {ls : List Layout}

/-- The first route is the one of the first screen. -/
theorem initialRoute?_program (h : (designLayout dark title screens).result = .ok ls) :
    initialRoute? (lexemes ls) = screens.head?.map path := by
  obtain ⟨classes, hclasses, rfl⟩ := designLayout_eq_ok h
  cases screens with
  | nil =>
      cases hclasses
      rw [initialRoute?]
      exact congrArg (Option.bind · literalAt?) (behind?_programLayout_nil (.inl rfl) dark title)
  | cons first rest =>
      have hkey (ts : List Token) : rowLexemes (initialRow first ++ ts) =
          initialKey.map .code ++ .literal (path first) :: .code ',' :: rowLexemes ts := by
        rw [rowLexemes_append]
        rfl
      have hfound := @behind?_self initialKey (List.cons_ne_nil _ _)
      rw [initialRoute?, behind?_programLayout (.inl rfl), tokens_routes, hkey, List.append_assoc,
        hfound]
      rfl

/-- The table of routes has an entry for each screen, in order, with the name of its class. -/
theorem routeTable?_program (h : (designLayout dark title screens).result = .ok ls) :
    routeTable? (lexemes ls) =
      some ((screens.map path).zip (assign (screens.map Screen.name))) := by
  obtain ⟨classes, hclasses, rfl⟩ := designLayout_eq_ok h
  cases screens with
  | nil =>
      cases hclasses
      rw [routeTable?]
      exact congrArg (Option.elim · (some []) entries?)
        (behind?_programLayout_nil (.inr rfl) dark title)
  | cons first rest =>
      generalize hnames : assign ((first :: rest).map Screen.name) = names
      have hwords : ∀ n ∈ names, WordName n := fun n hn => wordName_of_mem_assign (hnames ▸ hn)
      have hfirst : Passes tableKey (initialRow first) := .all ⟨.code rfl, .literal _, .code rfl⟩
      have hkey (ts : List Token) : rowLexemes (.code "routes: \x7b" :: ts) =
          tableKey.map .code ++ rowLexemes ts := rfl
      have hfound := @behind?_self tableKey (List.cons_ne_nil _ _)
      rw [routeTable?, behind?_programLayout (.inr rfl), tokens_routes, rowLexemes_append,
        List.append_assoc, hfirst, hkey, List.append_assoc, hfound, Option.elim_some,
        rowLexemes_append, List.append_assoc]
      exact entries?_zipWith hwords _

end

end ScreenDesign.Dart
