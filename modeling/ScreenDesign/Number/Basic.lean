import ScreenDesign.Number.Shortest
import ScreenDesign.Number.Numeral

/-!
# Numbers

A number of a design is a whole number of any size or a binary64 number.  The two
stay apart: `16` and `16.0` are different numbers with different texts.
-/

namespace ScreenDesign

/-- A number: whole, or binary64. -/
inductive Number where
  /-- A whole number. -/
  | int (n : Int)
  /-- A binary64 number. -/
  | float (x : Binary64)
  deriving DecidableEq

/-- The decimal text of a whole number. -/
def decimalText (n : Int) : String :=
  if n < 0 then "-" ++ n.natAbs.repr else n.natAbs.repr

namespace Number

/-- The text of a number. -/
def text : Number → String
  | .int n => decimalText n
  | .float x => x.text Binary64.plainNames

/-- The number with a binary64 number that is whole made a whole number. -/
def settle : Number → Number
  | .int n => .int n
  | .float x =>
      match x.whole? with
      | some n => .int n
      | none => .float x

/-- Whether the number is finite. -/
def isFinite : Number → Bool
  | .int _ => true
  | .float x => x.isFinite

/-- The nearest whole number, a half going to the even one, if the number is
finite. -/
def round? : Number → Option Int
  | .int n => some n
  | .float x => x.round?

/-- Twice the number. -/
def double : Number → Number
  | .int n => .int (2 * n)
  | .float x => .float x.double

/-- The nearest binary64 number, unless a whole number is too large for it. -/
def binary64? : Number → Option Binary64
  | .int n => Binary64.ofInt? n
  | .float x => some x

/-- Whether the number is zero. -/
def isZero : Number → Bool
  | .int n => n == 0
  | .float x => x.whole? == some 0

/-- Settling twice changes nothing more. -/
theorem settle_settle (n : Number) : n.settle.settle = n.settle := by
  cases n with
  | int n => rfl
  | float x =>
      cases h : x.whole? with
      | none => simp [settle, h]
      | some n => simp [settle, h]

end Number

end ScreenDesign
