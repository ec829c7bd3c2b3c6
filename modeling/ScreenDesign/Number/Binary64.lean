import ScreenDesign.Number.Rounding

/-!
# Binary64 numbers

A binary64 datum is a signed finite magnitude, a signed infinity or the one
value that is no number.  Magnitudes are ranked: rank zero is zero, and each rank
holds the next larger magnitude.  The rank is the exponent field followed by the
fraction field, so rounding up past the largest significand of an exponent gives
the first rank of the next one, and the rank after the last one is infinity.

* A rank below `2 ^ 52` is subnormal and has the significand `rank`.  Any other
  rank has the significand `2 ^ 52 + rank % 2 ^ 52`.
* `ofRatio` rounds a quotient to the nearest datum, a half going to the even
  significand.  `ofDecimal` rounds `digits * 10 ^ exponent` in the same way.
* `ratio` is the exact quotient behind a magnitude.

All arithmetic is on natural numbers, so every value here can be computed in a
proof.
-/

namespace ScreenDesign

/-- The number of finite magnitudes. -/
def Binary64.finiteCount : Nat := 2047 * Nat.pow 2 52

/-- A binary64 datum. -/
inductive Binary64 where
  /-- A signed magnitude, given by its rank. -/
  | finite (negative : Bool) (rank : Fin Binary64.finiteCount)
  /-- A signed infinity. -/
  | infinite (negative : Bool)
  /-- The value that is no number. -/
  | nan
  deriving DecidableEq

namespace Binary64

/-! ## Magnitudes -/

/-- The significand of a rank. -/
def significand (rank : Nat) : Nat :=
  if rank < Nat.pow 2 52 then rank else Nat.pow 2 52 + rank % Nat.pow 2 52

/-- The power of two that the significand of a rank counts. -/
def exponent (rank : Nat) : Int :=
  if rank < Nat.pow 2 52 then -1074 else (rank / Nat.pow 2 52 : Nat) - 1075

/-- The magnitude of a rank as a quotient. -/
def ratio (rank : Nat) : Nat × Nat :=
  let e := exponent rank
  if 0 ≤ e then (significand rank * Nat.pow 2 e.toNat, 1)
  else (significand rank, Nat.pow 2 (-e).toNat)

/-- The denominator of a magnitude is positive. -/
theorem ratio_den_pos (rank : Nat) : 0 < (ratio rank).2 := by
  simp only [ratio]
  split
  · exact Nat.one_pos
  · exact Nat.pow_pos (by decide)

/-- The datum of a rank.  The ranks past the last magnitude are infinity. -/
def ofRank (negative : Bool) (rank : Nat) : Binary64 :=
  if h : rank < finiteCount then .finite negative ⟨rank, h⟩ else .infinite negative

/-- Zero with a sign. -/
def zero (negative : Bool) : Binary64 := ofRank negative 0

/-! ## Rounding to a datum -/

/-- The quotient `num / den` counted in units of `2 ^ e`. -/
def inUnits (num den : Nat) (e : Int) : Nat × Nat :=
  if 0 ≤ e then (num, den * Nat.pow 2 e.toNat) else (num * Nat.pow 2 (-e).toNat, den)

/-- The exponent whose units give `num / den` a significand of fifty-three
bits, or the least exponent if that is larger. -/
def unitExponent (num den : Nat) : Int :=
  let low := max ((num.log2 : Int) - den.log2 - 53) (-1074)
  let (n, d) := inUnits num den low
  if n / d < Nat.pow 2 53 then low else low + 1

/-- The datum nearest to `num / den`, a half going to the even significand. -/
def ofRatio (negative : Bool) (num den : Nat) : Binary64 :=
  if num = 0 then zero negative
  else
    let e := unitExponent num den
    let (n, d) := inUnits num den e
    ofRank negative ((e + 1074).toNat * Nat.pow 2 52 + divEven n d)

/-- The datum nearest to `digits * 10 ^ exponent`.  A number from `10 ^ 310`
upward is infinite, and one below `10 ^ -330` is zero, whatever its digits. -/
def ofDecimal (negative : Bool) (digits : Nat) (exponent : Int) : Binary64 :=
  if digits = 0 then zero negative
  else if 310 ≤ exponent then .infinite negative
  else if exponent + digits.log2 + 1 ≤ -330 then zero negative
  else if 0 ≤ exponent then ofRatio negative (digits * Nat.pow 10 exponent.toNat) 1
  else ofRatio negative digits (Nat.pow 10 (-exponent).toNat)

/-- The datum nearest to a whole number, unless that is an infinity. -/
def ofInt? (n : Int) : Option Binary64 :=
  match ofRatio (decide (n < 0)) n.natAbs 1 with
  | .infinite _ => none
  | x => some x

/-! ## Reading a datum -/

/-- Whether the datum is a number. -/
def isFinite : Binary64 → Bool
  | .finite _ _ => true
  | _ => false

/-- A natural number with a sign. -/
def signed (negative : Bool) (n : Nat) : Int :=
  if negative then -(n : Int) else n

/-- The whole number that the datum equals, if it equals one. -/
def whole? : Binary64 → Option Int
  | .finite negative rank =>
      let (num, den) := ratio rank
      if num % den = 0 then some (signed negative (num / den)) else none
  | _ => none

/-- The whole number nearest to a finite datum, a half going to the even one. -/
def round? : Binary64 → Option Int
  | .finite negative rank =>
      let (num, den) := ratio rank
      some (signed negative (divEven num den))
  | _ => none

/-- Twice the datum. -/
def double : Binary64 → Binary64
  | .finite negative rank =>
      let (num, den) := ratio rank
      ofRatio negative (2 * num) den
  | x => x

/-- A whole number is finite. -/
theorem isFinite_of_whole? {x : Binary64} {n : Int} (h : x.whole? = some n) :
    x.isFinite = true := by
  cases x <;> simp_all [whole?, isFinite]

/-- Exactly the finite data can be rounded. -/
theorem round?_isSome (x : Binary64) : x.round?.isSome = x.isFinite := by
  cases x <;> rfl

example : ofDecimal false 1 0 = ofRank false (1023 * Nat.pow 2 52) := by decide +kernel

example : ofDecimal false 25 (-1) = ofRatio false 5 2 := by decide +kernel

example : ofDecimal true 1 400 = .infinite true := by decide +kernel

end Binary64

end ScreenDesign
