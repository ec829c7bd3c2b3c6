import ScreenDesign.Sanitize

/-!
# Fitting on one axis

A position and a size *fit* an axis if the position is not negative, the size is at
least the floor and the far edge lies within the limit.  `fits_fitAxis` says that
`fitAxis` makes any size fit at any position from zero upward, and `fitAxis_of_fits`
that it leaves alone what fits.  So the order of its steps, cutting before moving
back, is pinned down on every corner of the canvas and for every floor.
-/

namespace ScreenDesign

/-! ## Clamping -/

theorem clamp_bounds {low high : Int} (h : low ≤ high) (n : Int) :
    low ≤ clamp low high n ∧ clamp low high n ≤ high := by
  rw [clamp]
  omega

theorem clamp_of_bounds {low high n : Int} (hlow : low ≤ n) (hhigh : n ≤ high) :
    clamp low high n = n := by
  rw [clamp]
  omega

namespace Sanitize

/-! ## The axis -/

/-- A position and a size that fit an axis. -/
structure Fits (floor limit position size : Int) : Prop where
  /-- The near edge is on the canvas. -/
  near : 0 ≤ position
  /-- The size is at least the floor. -/
  floor_le : floor ≤ size
  /-- The far edge is on the canvas. -/
  far : position + size ≤ limit

theorem Fits.position_le {floor limit position size : Int} (h : Fits floor limit position size)
    (hfloor : 0 ≤ floor) : position ≤ limit := by
  have := h.floor_le
  have := h.far
  omega

/-- Whatever is asked for fits after fitting. -/
theorem fits_fitAxis {floor limit position : Int} (hfloor : floor ≤ limit)
    (hnear : 0 ≤ position) (size : Int) :
    Fits floor limit (fitAxis position size floor limit).1
      (fitAxis position size floor limit).2 := by
  simp only [fitAxis]
  split
  case isTrue within => exact ⟨hnear, by omega, within⟩
  case isFalse overhangs =>
      split
      case isTrue within => exact ⟨hnear, by omega, within⟩
      case isFalse overhangs => exact ⟨by omega, by omega, by omega⟩

/-- What fits is left alone. -/
theorem fitAxis_of_fits {floor limit position size : Int}
    (h : Fits floor limit position size) :
    fitAxis position size floor limit = (position, size) := by
  obtain ⟨near, floor_le, far⟩ := h
  have size_eq : max floor (min limit size) = size := by omega
  simp only [fitAxis, size_eq, if_pos far]

/-! ## Values -/

theorem coordinate_nonneg {limit : Int} (h : 0 ≤ limit) (default : Int) (j : Json) :
    0 ≤ coordinate default limit j :=
  (clamp_bounds h _).1

theorem extent_int (default n : Int) : extent default (.int n) = n := rfl

/-- A whole number on the canvas is its own coordinate. -/
theorem coordinate_int {limit n : Int} (default : Int) (hnear : 0 ≤ n) (hfar : n ≤ limit) :
    coordinate default limit (.int n) = n := by
  rw [coordinate, extent_int]
  exact clamp_of_bounds hnear hfar

end Sanitize

end ScreenDesign
