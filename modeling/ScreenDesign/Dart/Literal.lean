import ScreenDesign.Color
import ScreenDesign.Json.Literal
import ScreenDesign.Failure

/-!
# Dart literals

The forms in which values enter Dart source.

* A text is put in single quotes.  The quote, the backslash, the dollar sign, line
  breaks and tabs are escaped, so the literal stays on its line and nothing in it is
  replaced.
* A number has one digit after the point.
* A color is an opaque `Color`.
-/

namespace ScreenDesign.Dart

/-- A character as it stands between single quotes. -/
def escaped (c : Char) : List Char :=
  if c = '\\' then ['\\', '\\']
  else if c = '\x27' then ['\\', '\x27']
  else if c = '$' then ['\\', '$']
  else if c = '\n' then ['\\', 'n']
  else if c = '\r' then ['\\', 'r']
  else if c = '\t' then ['\\', 't']
  else [c]

/-- The characters of a text literal. -/
def literalChars (s : String) : List Char :=
  '\x27' :: (s.toList.flatMap escaped ++ ['\x27'])

/-- A text literal. -/
def literal (s : String) : String := String.ofList (literalChars s)

/-- The text that a value has in a literal: nothing is empty. -/
def literalText : Json → String
  | .null => ""
  | j => j.shown

def color (c : Color) : String := "Color(0xFF" ++ String.ofList c.digits ++ ")"

/-- The constant of an icon. -/
def icon (name : String) : String := "Icons." ++ name

/-! ## Numbers -/

/-- A number as a binary64 number. -/
def double (n : Number) : Except Failure Binary64 :=
  match n.binary64? with
  | some x => .ok x
  | none => .error .tooLarge

/-- The binary64 number that a value is or writes. -/
def doubleOf : Json → Except Failure Binary64
  | .bool b => double (.int (if b then 1 else 0))
  | .number n => double n
  | .text s =>
      match Numeral.readNumeral? s with
      | some x => .ok x
      | none => .error (.noNumeral s)
  | j => .error (.noNumber j.kindName)

end ScreenDesign.Dart
