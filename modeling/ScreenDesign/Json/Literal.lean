import ScreenDesign.Json.Basic
import ScreenDesign.Json.Writer
import ScreenDesign.Text.Printable

/-!
# Values in running text

How a value is shown in a message.  `literal` is the form in which it could be
typed into a program: texts stand in quotes, and nothing and the truth values are
words with a capital.  `shown` is the same except that a text stands for itself.
`plain` is the text a value has inside a table or a list: nothing is empty, truth
values are in lower case, and a binary64 number that is whole has no point.

A text is put in single quotes, or in double quotes if it holds a single quote and
no double quote.  The quote, the backslash and every character that is not
printable are escaped.
-/

namespace ScreenDesign

/-- The quote that a text is put in. -/
def Text.quoteFor (cs : List Char) : Char :=
  if cs.contains '\x27' && !cs.contains '\x22' then '\x22' else '\x27'

/-- A character between quotes of a kind. -/
def Text.literalChar (quote c : Char) : List Char :=
  if c = quote ∨ c = '\\' then ['\\', c]
  else if c = '\n' then ['\\', 'n']
  else if c = '\r' then ['\\', 'r']
  else if c = '\t' then ['\\', 't']
  else if Text.isPrintable c then [c]
  else if c.toNat ≤ 0xFF then '\\' :: 'x' :: Json.hexDigits 2 c.toNat
  else if c.toNat ≤ 0xFFFF then '\\' :: 'u' :: Json.hexDigits 4 c.toNat
  else '\\' :: 'U' :: Json.hexDigits 8 c.toNat

/-- A text in quotes. -/
def Text.literal (s : String) : List Char :=
  let cs := s.toList
  let quote := Text.quoteFor cs
  quote :: (cs.flatMap (Text.literalChar quote) ++ [quote])

namespace Json

mutual

/-- The characters of a value's literal. -/
def literalChars : Json → List Char
  | .null => "None".toList
  | .bool b => if b then "True".toList else "False".toList
  | .number n => n.text.toList
  | .text s => Text.literal s
  | .list [] => ['[', ']']
  | .list (j :: js) => '[' :: (literalChars j ++ literalItems js)
  | .object [] => ['\x7b', '\x7d']
  | .object ((k, j) :: ms) =>
      '\x7b' :: (Text.literal k ++ ':' :: ' ' :: (literalChars j ++ literalMembers ms))
termination_by structural j => j

/-- The items of a list after its first one, and the closing bracket. -/
def literalItems : List Json → List Char
  | [] => [']']
  | j :: js => ',' :: ' ' :: (literalChars j ++ literalItems js)
termination_by structural js => js

/-- The members of an object after its first one, and the closing brace. -/
def literalMembers : List (String × Json) → List Char
  | [] => ['\x7d']
  | (k, j) :: ms =>
      ',' :: ' ' :: (Text.literal k ++ ':' :: ' ' :: (literalChars j ++ literalMembers ms))
termination_by structural ms => ms

end

/-- The literal of a value. -/
def literal (j : Json) : String := String.ofList (literalChars j)

/-- A value as it is shown: a text as itself, any other value as its literal. -/
def shown : Json → String
  | .text s => s
  | j => j.literal

/-- The text of a value inside a table or a list. -/
def plain : Json → String
  | .null => ""
  | .bool b => if b then "true" else "false"
  | .number n => n.settle.text
  | j => j.shown

end Json

end ScreenDesign
