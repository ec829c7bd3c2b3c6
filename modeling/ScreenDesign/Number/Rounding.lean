/-!
# Rounding a quotient

`divEven` is the whole number nearest to a quotient of natural numbers.  Of two
nearest numbers it takes the even one.  Its value is the floor or the floor plus
one.
-/

namespace ScreenDesign

/-- The whole number nearest to `num / den`, a half going to the even one. -/
def divEven (num den : Nat) : Nat :=
  let floor := num / den
  let rest := num % den
  if 2 * rest < den then floor
  else if den < 2 * rest then floor + 1
  else floor + floor % 2

/-- Rounding never goes below the floor. -/
theorem div_le_divEven (num den : Nat) : num / den ≤ divEven num den := by
  simp only [divEven]
  split
  · exact Nat.le_refl _
  · split <;> omega

/-- Rounding goes at most one above the floor. -/
theorem divEven_le (num den : Nat) : divEven num den ≤ num / den + 1 := by
  simp only [divEven]
  split
  · omega
  · split <;> omega

/-- A quotient without a rest is its own rounding. -/
theorem divEven_of_dvd {num den : Nat} (hden : 0 < den) (h : num % den = 0) :
    divEven num den = num / den := by
  simp [divEven, h, hden]

example : [divEven 5 10, divEven 15 10, divEven 25 10, divEven 26 10] = [0, 2, 2, 3] := by
  decide

end ScreenDesign
