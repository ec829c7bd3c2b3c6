import ScreenDesign.Text.Basic

/-!
# Class names

Every screen becomes a class.  Its name is made of the ASCII words of the screen's
name.  Where several screens would get the same name, the later ones get a number.
-/

namespace ScreenDesign.Dart

/-- A word with a capital first letter. -/
def capitalized : List Char → List Char
  | [] => []
  | c :: cs => c.toUpper :: cs

/-- The words of a name joined, or a word that stands in for none. -/
def joinedWords (name : String) : List Char :=
  let joined := (Text.runs Text.isAlphanumeric name.toList).flatMap capitalized
  if joined.isEmpty then "Untitled".toList else joined

/-- The class name of a screen's name. -/
def className (name : String) : String :=
  let base := joinedWords name
  let start := if (base.head?.map Char.isDigit).getD false then "Screen".toList else []
  String.ofList (start ++ base ++ "Screen".toList)

/-- A class name with a number, where the first one has none. -/
def numbered (base : String) (position : Nat) : String :=
  if position = 0 then base else base ++ (position + 1).repr

/-- The first numbered name that is not used.  One of as many names as are used and
one more is always free. -/
def freshName (used : List String) (base : String) : String :=
  (((List.range (used.length + 1)).map (numbered base)).find? fun n => n ∉ used).getD base

/-- Class names for screens in order, with the names already used. -/
def assignAfter (used : List String) : List String → List String
  | [] => []
  | name :: names =>
      let fresh := freshName used (className name)
      fresh :: assignAfter (fresh :: used) names

/-- Class names for screens with these names, in order. -/
def assign (names : List String) : List String := assignAfter [] names

example : className "user settings" = "UserSettingsScreen" := by decide +kernel

example : assign ["Home", "Home", "home2"] = ["HomeScreen", "HomeScreen2", "Home2Screen"] := by
  decide +kernel

end ScreenDesign.Dart
