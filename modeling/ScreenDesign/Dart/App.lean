import ScreenDesign.Dart.ClassName
import ScreenDesign.Dart.Widget
import ScreenDesign.Problem

/-!
# Programs

A design becomes one Dart program: an app with a route for each screen, a drawer
that leads to all of them, and a class with state for each screen.  The body of a
screen is a stack with a positioned widget for each element.

A button whose target is no screen is still given its route.  It is reported in a
warning.
-/

namespace ScreenDesign.Dart

open Layout

/-! ## Warnings -/

/-- A button that leads to no screen. -/
structure Warning where
  /-- The id of the screen with the button. -/
  screen : String
  /-- The id of the button. -/
  element : String
  /-- The target of the button. -/
  target : String
  deriving DecidableEq

namespace Warning

/-- What a warning says. -/
def message (w : Warning) : String := (Problem.brokenLink w.target).message

/-- A warning as a notice. -/
def notice (w : Warning) : Notice :=
  ⟨.generator, .warning,
    "Screen '" ++ w.screen ++ "', element '" ++ w.element ++ "': " ++ w.message⟩

end Warning

/-- The target of an element, if it is a button that leads somewhere. -/
def target? (e : Element) : Logged (Option String) :=
  if e.type = .button then do
    let r ← e.record
    pure (nonEmpty? (r.text "navigateTo"))
  else pure none

/-- The warning about an element of a screen. -/
def warning? (screenIds : List String) (s : Screen) (e : Element) : Logged (Option Warning) := do
  let target ← target? e
  pure <| (target.filter (· ∉ screenIds)).map fun target => ⟨s.id, e.id, target⟩

/-- The warnings about a screen. -/
def screenWarnings (screenIds : List String) (s : Screen) : Logged (List Warning) := do
  let found ← s.elements.mapM (warning? screenIds s)
  pure (found.filterMap id)

/-- The warnings about a design. -/
def warnings (screens : List Screen) : Logged (List Warning) := do
  let found ← screens.mapM (screenWarnings (screens.map Screen.id))
  pure found.flatten

/-! ## The app -/

/-- The theme of the app. -/
def themeData (dark : Bool) : Layout :=
  call "ThemeData" <|
    if dark then
      [row "brightness: Brightness.dark,",
       row "primarySwatch: Colors.blue,",
       row "scaffoldBackgroundColor: const Color(0xFF121212),",
       argument "appBarTheme: const AppBarTheme"
        [row "backgroundColor: Color(0xFF1E1E1E),", row "elevation: 0,"]]
    else
      [row "brightness: Brightness.light,",
       row "primarySwatch: Colors.blue,",
       row "scaffoldBackgroundColor: Colors.white,",
       argument "appBarTheme: const AppBarTheme"
        [row "backgroundColor: Colors.white,", row "foregroundColor: Colors.black,",
         row "elevation: 0,"]]

/-- The route of a screen. -/
def route (id : String) : Token := .literal ("/" ++ id)

/-- The entry of a screen in the table of routes. -/
def routeEntry (s : Screen) (className : String) : Layout :=
  .line [route s.id, .code ": (context) => const ", .declared className, .code "(),"]

/-- The routes of an app.  An app without screens has an empty home. -/
def routes (screens : List Screen) (names : List String) : List Layout :=
  match screens with
  | [] => [row "home: const Scaffold(),"]
  | first :: _ =>
      [.line [.code "initialRoute: ", route first.id, .code ","],
       braces "routes: " (List.zipWith routeEntry screens names) ","]

/-- The method that builds a widget. -/
def buildMethod (body : List Layout) : List Layout :=
  [row "@override", braces "Widget build(BuildContext context) " body ""]

/-- What a method gives back. -/
def result (name : String) (body : List Layout) : Layout :=
  .block [.code ("return " ++ name ++ "(")] body [.code ");"]

/-- The class of the app. -/
def app (dark : Bool) (title : String) (screens : List Screen) (names : List String) : Layout :=
  braces "class MyApp extends StatelessWidget "
    ([row "const MyApp(\x7bsuper.key\x7d);", blank] ++
      buildMethod
        [result "MaterialApp"
          ([textRow "title: " title ",",
            row "debugShowCheckedModeBanner: false,",
            attach "theme" (themeData dark)] ++
            routes screens names)])
    ""

/-! ## The drawer -/

/-- The heading of the drawer. -/
def drawerHeader : Layout :=
  argument "const DrawerHeader"
    [argument "child: Text"
      [.line [.literal "Screens", .code ","],
       row "style: TextStyle(",
       row "  fontSize: 24, fontWeight: FontWeight.bold),"]]

/-- The entry of a screen in the drawer. -/
def drawerEntry (s : Screen) : Layout :=
  argument "ListTile"
    [textRow "title: Text(" s.name "),",
     braces "onTap: () "
      [row "Navigator.of(context).pop();",
       .block
        [.code "if (ModalRoute.of(context)?.settings.name != ", route s.id, .code ") \x7b"]
        [.line [.code "Navigator.of(context).pushReplacementNamed(", route s.id, .code ");"]]
        [.code "\x7d"]]
      ","]

/-- The class of the drawer. -/
def drawer (screens : List Screen) : Layout :=
  braces "class AppSidebar extends StatelessWidget "
    ([row "const AppSidebar(\x7bsuper.key\x7d);", blank] ++
      buildMethod
        [result "Drawer"
          [argument "child: ListView"
            [brackets "children" (drawerHeader :: screens.map drawerEntry)]]])
    ""

/-! ## Screens -/

/-- The declaration of the state variable of an element with an index. -/
def fieldOf (index : Int) (e : Element) : Logged (Option Layout) :=
  if e.type.canHaveState then do
    let r ← e.record
    if r.flag "interactive" then do
      let c ← Content.ofRecord e.type r
      pure (stateField? index c)
    else pure none
  else pure none

/-- Whether a widget looks its selection up in the choices again. -/
def looksUpSelection : Content → Bool
  | .dropdown d => !d.interactive
  | _ => false

/-- The widget of an element with an index.  A dropdown without state reads its
choices once more to find the selected one, and so leaves their notice twice. -/
def elementWidget (index : Int) (e : Element) : Logged Layout := do
  let r ← e.record
  let c ← Content.ofRecord e.type r
  if looksUpSelection c then let _ ← Content.readChoices r
  Logged.ofExcept (widget index c)

/-- The remark above the widget of an element. -/
def elementRemark (e : Element) : Layout :=
  .line [.remark (e.type.name ++ " '" ++ " ".intercalate (Text.words e.id) ++ "'")]

/-- An argument with a whole number. -/
def placeRow (key : String) (n : Int) : Except Failure Layout :=
  numberRow (key ++ ": ") (.int n) ","

/-- The place of an element. -/
def placeRows (e : Element) : Except Failure (List Layout) := do
  let left ← placeRow "left" e.x
  let top ← placeRow "top" e.y
  let width ← placeRow "width" e.width
  let height ← placeRow "height" e.height
  pure [left, top, width, height]

/-- The positioned widget of an element with an index, under its remark. -/
def positioned (index : Int) (e : Element) : Logged (List Layout) := do
  let place ← Logged.ofExcept (placeRows e)
  let inside ← elementWidget index e
  pure [elementRemark e, argument "Positioned" (place ++ [attach "child" inside])]

/-- The remark in the body of a screen without elements. -/
def emptyBody : Layout := .line [.remark "No elements added yet"]

/-- The classes of a screen, with the declarations of its state and its
widgets. -/
def screenClasses (s : Screen) (className : String) (fields widgets : List Layout) :
    List Layout :=
  let name := Token.declared className
  let state := Token.declared ("_" ++ className ++ "State")
  [.block [.code "class ", name, .code " extends StatefulWidget \x7b"]
    [.line [.code "const ", name, .code "(\x7bsuper.key\x7d);"],
     blank,
     row "@override",
     .line [.code "State<", name, .code "> createState() => ", state, .code "();"]]
    [.code "\x7d"],
   blank,
   .block [.code "class ", state, .code " extends State<", name, .code "> \x7b"]
    ((if fields.isEmpty then [] else fields ++ [blank]) ++
      buildMethod
        [result "Scaffold"
          [argument "appBar: AppBar" [textRow "title: Text(" s.name "),"],
           row "drawer: const AppSidebar(),",
           argument "body: Stack"
            [brackets "children" (if s.elements.isEmpty then [emptyBody] else widgets)]]])
    [.code "\x7d"]]

/-- The classes of a screen. -/
def screen (s : Screen) (className : String) : Logged (List Layout) := do
  let fields ← (s.elements.mapIdx fun i e => fieldOf i e).mapM id
  let widgets ← (s.elements.mapIdx fun i e => positioned i e).mapM id
  pure (screenClasses s className (fields.filterMap id) widgets.flatten)

/-! ## The program -/

/-- A program with the warnings about its design. -/
structure Program where
  /-- The source text. -/
  code : String
  /-- The warnings. -/
  warnings : List Warning
  deriving DecidableEq

/-- The title of an app that is given none. -/
def defaultTitle : String := "Flutter UI App"

/-- What stands before the classes of the app. -/
def preamble : List Layout :=
  [.line [.code "import ", .literal "package:flutter/material.dart", .code ";"],
   blank,
   braces "void main() " [row "runApp(const MyApp());"] ""]

/-- The layout of a whole program, with the classes of its screens. -/
def programLayout (dark : Bool) (title : String) (screens : List Screen) (names : List String)
    (classes : List (List Layout)) : List Layout :=
  preamble ++ [blank, app dark title screens names, blank, drawer screens] ++
    classes.flatMap (blank :: ·)

/-- Source text from a layout. -/
def sourceText (layout : List Layout) : String :=
  "\n".intercalate (linesAll 0 layout) ++ "\n"

/-- The program of a design. -/
def program (dark : Bool) (title : String) (screens : List Screen) : Logged Program := do
  let found ← warnings screens
  Logged.ofNoted ⟨(), found.map Warning.notice⟩
  let names := assign (screens.map Screen.name)
  let classes ← (List.zipWith screen screens names).mapM id
  Logged.note .generator .debug ("Generated " ++ screens.length.repr ++ " screen(s)")
  pure ⟨sourceText (programLayout dark title screens names classes), found⟩

end ScreenDesign.Dart
