import ScreenDesign.Number.Binary64
import ScreenDesign.Text.Basic
import ScreenDesign.Text.Digit

/-!
# Numerals

Numbers written as text.  A numeral may have white space at both ends, a sign,
and underscores between digits.  It is a decimal with an optional point and
exponent, or one of the words `inf`, `infinity` and `nan` in any letter case.  A
decimal too large for a finite datum is infinite.

`datum?` reads what is left when the white space and the underscores are gone.
`readNumeral?` is the strict reader, which takes the digits of every script and an
underscore between two digits only.
-/

namespace ScreenDesign.Numeral

open ScreenDesign.Text

/-! ## Parts -/

/-- The number that a list of ASCII digits writes. -/
def ofDigits (cs : List Char) : Nat := Nat.ofDigitChars 10 cs 0

/-- Takes out the underscores that stand between two digits.  Any other
underscore is refused.  The flag says whether a digit came before. -/
def joinDigits : Bool → List Char → Option (List Char)
  | _, [] => some []
  | afterDigit, '_' :: cs =>
      match cs with
      | c :: _ => if afterDigit && c.isDigit then joinDigits false cs else none
      | [] => none
  | _, c :: cs => (joinDigits c.isDigit cs).map (c :: ·)
termination_by structural _ cs => cs

/-- A sign and what follows it. -/
def sign : List Char → Bool × List Char
  | '-' :: cs => (true, cs)
  | '+' :: cs => (false, cs)
  | cs => (false, cs)

/-- The digits at the front of a text and the rest. -/
def digits (cs : List Char) : List Char × List Char :=
  (cs.takeWhile Char.isDigit, cs.dropWhile Char.isDigit)

/-- The digits after a point, if the text starts with one, and the rest. -/
def fraction : List Char → List Char × List Char
  | '.' :: cs => digits cs
  | cs => ([], cs)

/-- The exponent that a text consists of.  The empty text is the exponent
zero. -/
def exponent? : List Char → Option Int
  | [] => some 0
  | c :: cs =>
      if c = 'e' ∨ c = 'E' then
        let (negative, ds) := sign cs
        if ds.isEmpty || !ds.all Char.isDigit then none
        else some (Binary64.signed negative (ofDigits ds))
      else none

/-! ## Readers -/

/-- The datum of an unsigned decimal. -/
def decimal? (negative : Bool) (cs : List Char) : Option Binary64 :=
  let (whole, afterWhole) := digits cs
  let (part, afterPart) := fraction afterWhole
  if whole.isEmpty && part.isEmpty then none
  else
    (exponent? afterPart).map fun e =>
      Binary64.ofDecimal negative (ofDigits (whole ++ part)) (e - part.length)

/-- The datum of a signed numeral or number word, without white space and
underscores. -/
def datum? (cs : List Char) : Option Binary64 :=
  let (negative, unsigned) := sign cs
  let word := String.ofList (unsigned.map Char.toLower)
  if word = "inf" ∨ word = "infinity" then some (.infinite negative)
  else if word = "nan" then some .nan
  else decimal? negative unsigned

/-- The datum that a text writes, with the digits of any script. -/
def readNumeral? (s : String) : Option Binary64 :=
  (joinDigits false (asciiDigits (trimBy isWhite s.toList))).bind datum?

/-- The most digits that a whole number may be written with. -/
def maxDigits : Nat := 4300

end ScreenDesign.Numeral
