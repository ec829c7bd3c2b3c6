import ScreenDesign.Json.Basic

/-!
# Writing JSON

A value as JSON text, compact or indented by two blanks.  Texts keep every
character as it is, except the double quote, the backslash and the control
characters below the blank, which are escaped.  A binary64 number is written with
the fewest digits that read back, and the ones that are not finite by their names.
-/

namespace ScreenDesign.Json

/-! ## Texts -/

/-- The hexadecimal digits of a number, padded on the left to a width. -/
def hexDigits (width n : Nat) : List Char :=
  let ds := Nat.toDigits 16 n
  List.replicate (width - ds.length) '0' ++ ds

/-- A character as it stands between double quotes. -/
def escaped (c : Char) : List Char :=
  if c = '\x22' then ['\\', '\x22']
  else if c = '\\' then ['\\', '\\']
  else if c = '\n' then ['\\', 'n']
  else if c = '\r' then ['\\', 'r']
  else if c = '\t' then ['\\', 't']
  else if c = '\x08' then ['\\', 'b']
  else if c = '\x0c' then ['\\', 'f']
  else if c.toNat < 0x20 then '\\' :: 'u' :: hexDigits 4 c.toNat
  else [c]

/-- A text in double quotes. -/
def quoted (s : String) : List Char :=
  '\x22' :: (s.toList.flatMap escaped ++ ['\x22'])

/-- A number as JSON text. -/
def numeral : Number → List Char
  | .int n => (decimalText n).toList
  | .float x => (x.text Binary64.jsonNames).toList

/-- A truth value as JSON text. -/
def truth (b : Bool) : List Char := if b then "true".toList else "false".toList

/-! ## Compact text -/

mutual

/-- The characters of the compact text. -/
def compactChars : Json → List Char
  | .null => "null".toList
  | .bool b => truth b
  | .number n => numeral n
  | .text s => quoted s
  | .list [] => ['[', ']']
  | .list (j :: js) => '[' :: (compactChars j ++ compactItems js)
  | .object [] => ['\x7b', '\x7d']
  | .object ((k, j) :: ms) => '\x7b' :: (quoted k ++ ':' :: (compactChars j ++ compactMembers ms))
termination_by structural j => j

/-- The items of a list after its first one, and the closing bracket. -/
def compactItems : List Json → List Char
  | [] => [']']
  | j :: js => ',' :: (compactChars j ++ compactItems js)
termination_by structural js => js

/-- The members of an object after its first one, and the closing brace. -/
def compactMembers : List (String × Json) → List Char
  | [] => ['\x7d']
  | (k, j) :: ms => ',' :: (quoted k ++ ':' :: (compactChars j ++ compactMembers ms))
termination_by structural ms => ms

end

/-- The value as text without any space. -/
def compact (j : Json) : String := String.ofList (compactChars j)

/-! ## Indented text -/

/-- A new line at a depth. -/
def newLine (depth : Nat) : List Char := '\n' :: List.replicate (2 * depth) ' '

mutual

/-- The characters of the indented text of a value at a depth. -/
def indentedChars (depth : Nat) : Json → List Char
  | .null => "null".toList
  | .bool b => truth b
  | .number n => numeral n
  | .text s => quoted s
  | .list [] => ['[', ']']
  | .list (j :: js) =>
      '[' :: (newLine (depth + 1) ++ (indentedChars (depth + 1) j ++ indentedItems depth js))
  | .object [] => ['\x7b', '\x7d']
  | .object ((k, j) :: ms) =>
      '\x7b' :: (newLine (depth + 1) ++ (quoted k ++ ':' :: ' ' ::
        (indentedChars (depth + 1) j ++ indentedMembers depth ms)))
termination_by structural j => j

/-- The items of a list after its first one, one on each line. -/
def indentedItems (depth : Nat) : List Json → List Char
  | [] => newLine depth ++ [']']
  | j :: js =>
      ',' :: (newLine (depth + 1) ++ (indentedChars (depth + 1) j ++ indentedItems depth js))
termination_by structural js => js

/-- The members of an object after its first one, one on each line. -/
def indentedMembers (depth : Nat) : List (String × Json) → List Char
  | [] => newLine depth ++ ['\x7d']
  | (k, j) :: ms =>
      ',' :: (newLine (depth + 1) ++ (quoted k ++ ':' :: ' ' ::
        (indentedChars (depth + 1) j ++ indentedMembers depth ms)))
termination_by structural ms => ms

end

/-- The value as text with a line for each item and member. -/
def indented (j : Json) : String := String.ofList (indentedChars 0 j)

end ScreenDesign.Json
