import ScreenDesign.Dart.Literal

/-!
# Layout

Dart source as a tree.  A layout is a line, or a block: an opening line, a body and
a closing line.  The body of a block stands one step further to the right.  A line
is a list of tokens, and text from a design only ever enters as a token of its own:
a literal, an icon, a name or a remark.

`lines` lays the tree out.  A line without tokens is empty and has no indentation.
-/

namespace ScreenDesign.Dart

/-- A piece of a line. -/
inductive Token where
  /-- Fixed source text without quotes. -/
  | code (s : String)
  /-- A name that the program declares. -/
  | declared (s : String)
  /-- A text literal. -/
  | literal (s : String)
  /-- A number. -/
  | number (x : Binary64)
  /-- A color. -/
  | color (c : Color)
  /-- The constant of an icon. -/
  | icon (s : String)
  /-- A remark up to the end of the line. -/
  | remark (s : String)
  deriving DecidableEq

/-- A token as source text. -/
def Token.text : Token → String
  | .code s => s
  | .declared s => s
  | .literal s => Dart.literal s
  | .number x => x.onePlace
  | .color c => Dart.color c
  | .icon s => Dart.icon s
  | .remark s => "// " ++ s

/-- Source text that is laid out in lines. -/
inductive Layout where
  /-- One line. -/
  | line (tokens : List Token)
  /-- An opening line, a body and a closing line. -/
  | block (opening : List Token) (body : List Layout) (closing : List Token)

namespace Layout

/-! ## Building -/

/-- A line of fixed source text. -/
def row (s : String) : Layout := .line [.code s]

/-- An empty line. -/
def blank : Layout := .line []

/-- A call that is laid out in lines. -/
def call (name : String) (body : List Layout) : Layout :=
  .block [.code (name ++ "(")] body [.code ")"]

/-- A call in the place of an argument. -/
def argument (name : String) (body : List Layout) : Layout :=
  .block [.code (name ++ "(")] body [.code "),"]

/-- A block in braces. -/
def braces (head : String) (body : List Layout) (tail : String) : Layout :=
  .block [.code (head ++ "\x7b")] body [.code ("\x7d" ++ tail)]

/-- A list in brackets in the place of an argument. -/
def brackets (key : String) (body : List Layout) : Layout :=
  .block [.code (key ++ ": [")] body [.code "],"]

/-- A layout with tokens before its first line and after its last one. -/
def wrap (before after : List Token) : Layout → Layout
  | .line tokens => .line (before ++ tokens ++ after)
  | .block opening body closing => .block (before ++ opening) body (closing ++ after)

/-- A layout as the argument of a key. -/
def attach (key : String) (inside : Layout) : Layout :=
  inside.wrap [.code (key ++ ": ")] [.code ","]

/-- The children of a widget. -/
def children (widgets : List Layout) : Layout :=
  brackets "children" (widgets.map (wrap [] [.code ","]))

/-! ## Laying out -/

/-- The space in front of a line at a depth. -/
def indent (depth : Nat) : String := String.ofList (List.replicate (2 * depth) ' ')

/-- A line at a depth. -/
def lineText (depth : Nat) (tokens : List Token) : String :=
  if tokens.isEmpty then "" else indent depth ++ String.join (tokens.map Token.text)

mutual

/-- The lines of a layout at a depth. -/
def lines (depth : Nat) : Layout → List String
  | .line tokens => [lineText depth tokens]
  | .block opening body closing =>
      lineText depth opening :: (linesAll (depth + 1) body ++ [lineText depth closing])
termination_by structural l => l

/-- The lines of layouts that follow each other at a depth. -/
def linesAll (depth : Nat) : List Layout → List String
  | [] => []
  | l :: ls => lines depth l ++ linesAll depth ls
termination_by structural ls => ls

end

end Layout

end ScreenDesign.Dart
