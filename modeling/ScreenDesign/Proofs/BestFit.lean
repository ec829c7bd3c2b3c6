import Mathlib.Order.Bounds.Basic
import ScreenDesign.Proofs.Canonical

/-!
# The best fit on an axis

Of all positions and sizes that fit an axis, one is the *best fit* for a position and a size that
are asked for (`BestFit`).  It starts as far along as possible, though not beyond the position asked
for, and there it is as large as possible, though not larger than the size asked for or the floor.

There is at most one best fit (`BestFit.unique`), and `fitAxis` finds it (`bestFit_fitAxis`).  That
says what the order of its steps is for.  A fit moves only when the floor does not fit where it was
asked for (`BestFit.moved_iff`), it is cut only as far as the edge (`BestFit.far_eq`), and it is its
own best fit (`Fits.bestFit`).

Both axes of a sanitized element are best fits (`bestFit_element`).
-/

namespace ScreenDesign.Sanitize

/-- The position and the size that fit an axis best, where a position and a size are asked for. -/
structure BestFit (floor limit position size : Int) (fitted : Int × Int) : Prop where
  /-- They fit. -/
  fits : Fits floor limit fitted.1 fitted.2
  /-- No later position up to the one asked for has room for the floor. -/
  start : IsGreatest {p | p ≤ position ∧ ∃ s, Fits floor limit p s} fitted.1
  /-- No larger size up to the one asked for has room at the position. -/
  span : IsGreatest {s | s ≤ max floor size ∧ fitted.1 + s ≤ limit} fitted.2

section

variable {floor limit position size : Int} {fitted : Int × Int}

/-! ## What a best fit is -/

theorem BestFit.unique {other : Int × Int} (h : BestFit floor limit position size fitted)
    (hother : BestFit floor limit position size other) : fitted = other := by
  have hstart : fitted.1 = other.1 := h.start.unique hother.start
  have hspan := h.span
  rw [hstart] at hspan
  exact Prod.ext hstart (hspan.unique hother.span)

/-- A best fit starts elsewhere than asked for exactly if the floor has no room there. -/
theorem BestFit.moved_iff (h : BestFit floor limit position size fitted) :
    fitted.1 ≠ position ↔ limit < position + floor := by
  obtain ⟨near, floor_le, far⟩ := h.fits
  have hback : fitted.1 ≤ position := h.start.1.1
  constructor
  · intro hmoved
    by_contra hroom
    have hfits : Fits floor limit position floor := ⟨near.trans hback, le_refl floor, by omega⟩
    have hlater : position ≤ fitted.1 := h.start.2 ⟨le_refl position, floor, hfits⟩
    omega
  · omega

/-- A best fit that is smaller than asked for reaches the edge. -/
theorem BestFit.far_eq (h : BestFit floor limit position size fitted)
    (hcut : fitted.2 < max floor size) : fitted.1 + fitted.2 = limit := by
  have far := h.fits.far
  by_contra hgap
  have hlarger : fitted.2 + 1 ≤ fitted.2 := h.span.2 ⟨by omega, by omega⟩
  omega

/-- What fits is its own best fit. -/
theorem Fits.bestFit (h : Fits floor limit position size) :
    BestFit floor limit position size (position, size) where
  fits := h
  start := ⟨⟨le_refl position, size, h⟩, fun _ hp => hp.1⟩
  span := by
    have hsize : max floor size = size := max_eq_right h.floor_le
    rw [hsize]
    exact ⟨⟨le_refl size, h.far⟩, fun _ hs => hs.1⟩

/-! ## Finding it -/

/-- The result of fitting in closed form: the position asked for or the last one with room for the
floor, and then the size asked for or all the room that there is. -/
theorem fitAxis_eq (hnear : 0 ≤ position) (hroom : floor ≤ limit) (size : Int) :
    fitAxis position size floor limit =
      (min position (limit - floor),
        min (max floor size) (limit - min position (limit - floor))) := by
  simp only [fitAxis]
  split
  case isTrue => rw [Prod.mk.injEq]; omega
  case isFalse =>
      split
      case isTrue => rw [Prod.mk.injEq]; omega
      case isFalse => rw [Prod.mk.injEq]; omega

theorem bestFit_fitAxis (hnear : 0 ≤ position) (hroom : floor ≤ limit) (size : Int) :
    BestFit floor limit position size (fitAxis position size floor limit) where
  fits := fits_fitAxis hroom hnear size
  start := by
    have hfits := fits_fitAxis hroom hnear size
    rw [fitAxis_eq hnear hroom] at hfits ⊢
    refine ⟨⟨min_le_left _ _, _, hfits⟩, ?_⟩
    rintro p ⟨hp, s, -, floor_le, far⟩
    exact le_min hp (by omega)
  span := by
    rw [fitAxis_eq hnear hroom]
    refine ⟨⟨min_le_left _ _, by omega⟩, ?_⟩
    rintro s ⟨hs, far⟩
    exact le_min hs (by omega)

end

/-! ## Elements -/

/-- Across and down, an element is the best fit for the numbers that its record gives. -/
theorem bestFit_element (raw : Json) (id : String) :
    BestFit (element raw id).type.floor.width canvas.width
        (coordinate defaultX canvas.width (raw.getD "x"))
        (extent defaultWidth (raw.getD "width")) ((element raw id).x, (element raw id).width) ∧
      BestFit (element raw id).type.floor.height canvas.height
        (coordinate defaultY canvas.height (raw.getD "y"))
        (extent defaultHeight (raw.getD "height"))
        ((element raw id).y, (element raw id).height) := by
  obtain ⟨hwidth, hheight⟩ := (typeOf raw).floor_le_canvas
  constructor
  · exact bestFit_fitAxis (coordinate_nonneg (Int.natCast_nonneg canvas.width) _ _)
      (Int.ofNat_le.mpr hwidth) _
  · exact bestFit_fitAxis (coordinate_nonneg (Int.natCast_nonneg canvas.height) _ _)
      (Int.ofNat_le.mpr hheight) _

/-! ## Fitting -/

/-- Fitting is optimal.  Its result is the one best fit for the position and the size asked for, so
it moves only when the floor has no room there, it is cut only as far as the edge, and it is fitted
to itself.  The axes of every sanitized element are fitted in this way. -/
theorem fitAxis_optimal :
    (∀ position size floor limit fitted, 0 ≤ position → floor ≤ limit →
      fitAxis position size floor limit = fitted →
        BestFit floor limit position size fitted ∧
        (∀ other, BestFit floor limit position size other → other = fitted) ∧
        (fitted.1 ≠ position ↔ limit < position + floor) ∧
        (fitted.2 < max floor size → fitted.1 + fitted.2 = limit) ∧
        fitAxis fitted.1 fitted.2 floor limit = fitted) ∧
    ∀ raw id,
      BestFit (element raw id).type.floor.width canvas.width
          (coordinate defaultX canvas.width (raw.getD "x"))
          (extent defaultWidth (raw.getD "width")) ((element raw id).x, (element raw id).width) ∧
        BestFit (element raw id).type.floor.height canvas.height
          (coordinate defaultY canvas.height (raw.getD "y"))
          (extent defaultHeight (raw.getD "height"))
          ((element raw id).y, (element raw id).height) := by
  constructor
  · rintro position size floor limit fitted hnear hroom rfl
    have hbest := bestFit_fitAxis hnear hroom size
    have hagain := bestFit_fitAxis hbest.fits.near hroom
      (fitAxis position size floor limit).2
    exact ⟨hbest, fun other hother => hother.unique hbest, hbest.moved_iff, hbest.far_eq,
      hagain.unique hbest.fits.bestFit⟩
  · exact bestFit_element

/-- A size below the floor, asked for at the far corner, is raised and moved back. -/
theorem fitAxis_optimal_corner :
    (0 : Int) ≤ 640 ∧ (30 : Int) ≤ 640 ∧ BestFit 30 640 640 5 (610, 30) ∧
      fitAxis 610 30 30 640 = (610, 30) := by
  have hnear : (0 : Int) ≤ 640 := by decide
  have hroom : (30 : Int) ≤ 640 := by decide
  have h := fitAxis_optimal.1 640 5 30 640 (610, 30) hnear hroom (by decide)
  exact ⟨hnear, hroom, h.1, h.2.2.2.2⟩

end ScreenDesign.Sanitize
