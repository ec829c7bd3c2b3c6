import ScreenDesign.Number.Numeral

/-!
# Lenient numerals

The numerals that a field takes in place of a number.  They are written with ASCII
characters, and the readers care less about where an underscore stands than
`readNumeral?` does.

*Underscores.*  `unspaced?` takes the underscores out of a text that is well
spaced: no underscore stands at an end, and no two stand in a row.  The characters
beside an underscore are free, so `1_.5`, `1e_5` and `i_nf` are numerals.  White
space at an end and an underscore exclude each other.

*Whole numbers.*  `readWhole?` reads a whole number exactly.  It drops the zeros at
the front together with all underscores among them.  A point and zeros at the end
are dropped too.  What is left is a plain whole number, which has no zero at the
front and may have a minus.  So `0__9` is nine, and `0-1` is minus one: its minus
follows a dropped zero.
-/

namespace ScreenDesign.Numeral

open ScreenDesign.Text

/-! ## Underscores -/

/-- Whether each underscore stands between two other characters.  The flag says
whether such a character came before. -/
def wellSpaced : Bool → List Char → Bool
  | after, [] => after
  | after, '_' :: cs => after && wellSpaced false cs
  | _, _ :: cs => wellSpaced true cs
termination_by structural _ cs => cs

/-- A well spaced text without its underscores. -/
def unspaced? (cs : List Char) : Option (List Char) :=
  if wellSpaced false cs then some (cs.filter (· ≠ '_')) else none

/-- The datum that a text writes. -/
def readLenient? (s : String) : Option Binary64 :=
  match datum? (trimBy isWhite s.toList) with
  | some x => some x
  | none => (unspaced? s.toList).bind datum?

/-! ## Whole numbers -/

/-- Why a text is no whole number. -/
inductive WholeError where
  /-- It does not have the form of one. -/
  | form
  /-- It has more digits than are read. -/
  | length
  deriving DecidableEq

/-- A zero, or an underscore among zeros. -/
def isFiller (c : Char) : Bool := c == '0' || c == '_'

/-- The text without the zeros at its front and the underscores among them.  The
last of them stays if the text ends there or a point follows.  The text must start
with a digit, and a digit, a point or a minus must follow the zeros. -/
def dropZeros? : List Char → Option (List Char)
  | [] => none
  | '0' :: cs =>
      let last := (cs.takeWhile isFiller).getLastD '0'
      match cs.dropWhile isFiller with
      | [] => some [last]
      | '.' :: rest => some (last :: '.' :: rest)
      | c :: rest => if c.isDigit || c == '-' then some (c :: rest) else none
  | c :: cs => if c.isDigit then some (c :: cs) else none

/-- The text without a point at its end that only zeros follow.  At least one
zero must follow. -/
def dropZeroFraction (cs : List Char) : List Char :=
  let whole := cs.takeWhile (· ≠ '.')
  match cs.dropWhile (· ≠ '.') with
  | _ :: zeros => if !zeros.isEmpty && zeros.all (· == '0') then whole else cs
  | [] => cs

/-- A minus and what follows it. -/
def minus : List Char → Bool × List Char
  | '-' :: cs => (true, cs)
  | cs => (false, cs)

/-- The number of a plain whole number.  A minus counts towards its length. -/
def plainWhole (cs : List Char) : Except WholeError Int :=
  let (negative, unsigned) := minus cs
  let (ds, rest) := digits unsigned
  if ds.isEmpty || (ds.head? == some '0' && ds.length ≠ 1) then .error .form
  else if maxDigits < ds.length + negative.toNat then .error .length
  else if !rest.isEmpty then .error .form
  else .ok (Binary64.signed negative (ofDigits ds))

/-- The whole number that a text writes. -/
def readWhole? (s : String) : Except WholeError Int :=
  let (negative, unsigned) := sign (trimBy isWhite s.toList)
  match dropZeros? unsigned with
  | none => .error .form
  | some cs =>
      let whole := dropZeroFraction cs
      let plain := (unspaced? whole).getD whole
      plainWhole (if negative then '-' :: plain else plain)

/-! ## Examples -/

example : dropZeros? "00_00-12.000".toList = some "-12.000".toList := by decide

example : dropZeros? "0__0.0".toList = some "0.0".toList := by decide

example : unspaced? "1_000._5e_-3".toList = some "1000.5e-3".toList := by decide

example : unspaced? "1__0".toList = none := by decide

example : unspaced? "1_".toList = none := by decide

end ScreenDesign.Numeral
