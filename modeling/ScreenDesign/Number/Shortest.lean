import ScreenDesign.Number.Binary64

/-!
# The shortest decimal of a binary64 number

A positive magnitude is written with the fewest digits that read back as the same
datum.  Among decimals of that length the nearest one is taken, and of two equally
near ones the one with the even last digit.

`nearestOnGrid` looks at the two neighbours of a magnitude among the multiples of
a power of ten.  `shortest` tries one digit, then two, up to seventeen.  Should
all of them fail, the exact expansion is the answer, so every answer reads back.

`text` writes the digits.  A number from `10 ^ -4` up to but not including
`10 ^ 16` is positional and has at least one digit after the point.  Any other has
one digit before the point and an exponent with a sign and at least two digits.
-/

namespace ScreenDesign

/-- A decimal: `digits * 10 ^ exponent`. -/
structure Decimal where
  /-- The digits as one number. -/
  digits : Nat
  /-- The power of ten that the last digit counts. -/
  exponent : Int
  deriving DecidableEq

namespace Decimal

/-- Takes zeros off the right end, at most `fuel` of them. -/
def dropZeros : Nat → Decimal → Decimal
  | 0, d => d
  | fuel + 1, d =>
      if d.digits ≠ 0 ∧ d.digits % 10 = 0 then
        dropZeros fuel ⟨d.digits / 10, d.exponent + 1⟩
      else d
termination_by structural fuel _ => fuel

/-- A decimal of the same value that does not end in a zero. -/
def normal (d : Decimal) : Decimal := dropZeros d.digits.log2 d

/-- The decimal with its point, as laid out for numbers of moderate size.
`point` says how many digits stand before the point. -/
def positional (digits : List Char) (point : Int) : List Char :=
  if point ≤ 0 then '0' :: '.' :: (List.replicate (-point).toNat '0' ++ digits)
  else if digits.length ≤ point.toNat then
    digits ++ List.replicate (point.toNat - digits.length) '0' ++ ['.', '0']
  else digits.take point.toNat ++ '.' :: digits.drop point.toNat

/-- The decimal with one digit before the point and an exponent. -/
def scientific (digits : List Char) (point : Int) : List Char :=
  let e := point - 1
  let size := Nat.toDigits 10 e.natAbs
  digits.take 1 ++ (if digits.length ≤ 1 then [] else '.' :: digits.drop 1) ++
    'e' :: (if e < 0 then '-' else '+') ::
    (if size.length < 2 then '0' :: size else size)

/-- The decimal in the notation that its size asks for. -/
def text (d : Decimal) : List Char :=
  let digits := Nat.toDigits 10 d.digits
  let point := digits.length + d.exponent
  if -4 < point ∧ point ≤ 16 then positional digits point else scientific digits point

end Decimal

namespace Binary64

/-- The exact expansion of a magnitude. -/
def expansion (rank : Nat) : Decimal :=
  let e := exponent rank
  if 0 ≤ e then ⟨significand rank * Nat.pow 2 e.toNat, 0⟩
  else ⟨significand rank * Nat.pow 5 (-e).toNat, e⟩

/-- The quotient of a magnitude and `10 ^ e`. -/
def inTens (rank : Nat) (e : Int) : Nat × Nat :=
  let (num, den) := ratio rank
  if 0 ≤ e then (num, den * Nat.pow 10 e.toNat) else (num * Nat.pow 10 (-e).toNat, den)

/-- Whether a magnitude is below `10 ^ e`. -/
def belowTen (rank : Nat) (e : Int) : Bool :=
  let (num, den) := inTens rank e
  num < den

/-- The number of digits before the point: the least `p` with the magnitude
below `10 ^ p`, searched around an estimate from the binary logarithms. -/
def digitsBeforePoint (rank : Nat) : Int :=
  let (num, den) := ratio rank
  let low := ((num.log2 : Int) - den.log2 - 1) * 30103 / 100000
  if belowTen rank low then low
  else if belowTen rank (low + 1) then low + 1
  else if belowTen rank (low + 2) then low + 2
  else low + 3

/-- Whether a decimal reads back as the magnitude. -/
def readsBack (rank : Nat) (d : Decimal) : Bool :=
  ofDecimal false d.digits d.exponent == ofRank false rank

/-- Of the two multiples of `10 ^ e` around a magnitude, the nearer one that
reads back. -/
def nearestOnGrid (rank : Nat) (e : Int) : Option Decimal :=
  let (num, den) := inTens rank e
  let floor := num / den
  let twice := 2 * (num % den)
  let order :=
    if twice < den ∨ (twice = den ∧ floor % 2 = 0) then [floor, floor + 1]
    else [floor + 1, floor]
  (order.map fun n => Decimal.mk n e).find? (readsBack rank)

/-- The fewest digits that read back as the magnitude of a rank. -/
def shortest (rank : Nat) : Decimal :=
  let point := digitsBeforePoint rank
  let found := (List.range 17).findSome? fun (k : Nat) =>
    nearestOnGrid rank (point - ((k : Int) + 1))
  (found.getD (expansion rank)).normal

/-- The names of the data that are no finite numbers. -/
structure Names where
  /-- The name of an infinity, without its sign. -/
  infinite : String
  /-- The name of the value that is no number. -/
  nan : String

/-- A sign in front of a text. -/
def withSign (negative : Bool) (cs : List Char) : List Char :=
  if negative then '-' :: cs else cs

/-- The shortest text that reads back as the datum. -/
def text (names : Names) : Binary64 → String
  | .finite negative rank =>
      String.ofList (withSign negative
        (if rank.val = 0 then ['0', '.', '0'] else (shortest rank.val).text))
  | .infinite negative => String.ofList (withSign negative names.infinite.toList)
  | .nan => names.nan

/-- The names used where a number stands in running text. -/
def plainNames : Names := ⟨"inf", "nan"⟩

/-- The names used in JSON. -/
def jsonNames : Names := ⟨"Infinity", "NaN"⟩

/-- The datum with one digit after the point: its exact value rounded there, a
half going to the even digit. -/
def onePlace : Binary64 → String
  | .finite negative rank =>
      let (num, den) := ratio rank.val
      let tenths := divEven (10 * num) den
      String.ofList (withSign negative
        (Nat.toDigits 10 (tenths / 10) ++ '.' :: Nat.toDigits 10 (tenths % 10)))
  | x => x.text plainNames

end Binary64

end ScreenDesign
