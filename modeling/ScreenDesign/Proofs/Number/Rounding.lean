import Mathlib.Algebra.Order.Field.Power
import Mathlib.Tactic.FieldSimp
import Mathlib.Tactic.Positivity
import ScreenDesign.Number.Shortest
import ScreenDesign.Proofs.Number.Range

/-!
# Rounding to a binary64 number

Rounding a quotient depends on its value alone and not on the two numbers that give it
(`ofRatio_congr`).  The units in which a quotient is counted are determined by its value:
they leave it fewer than fifty-four bits, and not fewer than fifty-three unless they are the
least ones (`Fits`).

A decimal is therefore rounded by its value as well.  The bounds from which it counts as
infinite or as zero are far enough out to change nothing (`ofDecimal_eq`), so zeros at the end
of its digits do not matter (`ofDecimal_shift`), and a magnitude is the rounding of itself
(`ofRatio_ratio`).  The shortest decimal of a magnitude reads back as the magnitude
(`ofDecimal_shortest`).
-/

namespace ScreenDesign

/-! ## Quotients -/

theorem divEven_mul_right (num : Nat) {den c : Nat} (hc : 0 < c) :
    divEven (num * c) (den * c) = divEven num den := by
  have hrest : num * c % (den * c) = num % den * c := Nat.mul_mod_mul_right c num den
  have hfloor : num * c / (den * c) = num / den := Nat.mul_div_mul_right num den hc
  have hbelow : 2 * (num % den * c) < den * c ↔ 2 * (num % den) < den := by
    rw [← Nat.mul_assoc, Nat.mul_lt_mul_right hc]
  have habove : den * c < 2 * (num % den * c) ↔ den < 2 * (num % den) := by
    rw [← Nat.mul_assoc, Nat.mul_lt_mul_right hc]
  simp only [divEven, hrest, hfloor, hbelow, habove]

/-- Equal quotients round to the same number. -/
theorem divEven_congr {num den num' den' : Nat} (hden : 0 < den) (hden' : 0 < den')
    (h : num * den' = num' * den) : divEven num den = divEven num' den' :=
  calc divEven num den = divEven (num * den') (den * den') := (divEven_mul_right num hden').symm
    _ = divEven (num' * den) (den' * den) := by rw [h, Nat.mul_comm den den']
    _ = divEven num' den' := divEven_mul_right num' hden

namespace Binary64

/-- A quotient counted in units of a power of two. -/
theorem inUnits_eq (num : Nat) {den : Nat} (hden : 0 < den) (e : Int) :
    0 < (inUnits num den e).2 ∧
      ((inUnits num den e).1 : ℚ) / (inUnits num den e).2 = (num : ℚ) / den / 2 ^ e := by
  have hden' : (den : ℚ) ≠ 0 := Nat.cast_ne_zero.mpr (Nat.ne_of_gt hden)
  rw [inUnits]
  split
  case isTrue he =>
    obtain ⟨k, rfl⟩ := Int.eq_ofNat_of_zero_le he
    refine ⟨Nat.mul_pos hden (two_pow_pos _), ?_⟩
    simp only [Int.toNat_natCast, Nat.pow_eq, Nat.cast_mul, Nat.cast_pow, Nat.cast_ofNat,
      zpow_natCast]
    rw [div_div]
  case isFalse he =>
    obtain ⟨k, rfl⟩ : ∃ k : Nat, e = -(k : Int) := ⟨(-e).toNat, by omega⟩
    refine ⟨hden, ?_⟩
    simp only [neg_neg, Int.toNat_natCast, Nat.pow_eq, Nat.cast_mul, Nat.cast_pow, Nat.cast_ofNat,
      zpow_neg, zpow_natCast]
    field_simp

/-! ## Units -/

/-- Units of `2 ^ e` leave a quotient fewer than fifty-four bits, and fifty-three unless they
are the least units. -/
structure Fits (q : ℚ) (e : Int) : Prop where
  least : -1074 ≤ e
  upper : q < 2 ^ (e + 53)
  lower : e = -1074 ∨ 2 ^ (e + 52) ≤ q

theorem two_zpow_le {m n : Int} (h : m ≤ n) : (2 : ℚ) ^ m ≤ 2 ^ n :=
  zpow_le_zpow_right₀ (by norm_num) h

/-- The units of larger exponent would be too large. -/
theorem Fits.le {q : ℚ} {e e' : Int} (h : Fits q e) (h' : Fits q e') : e' ≤ e := by
  by_contra hlt
  rcases h'.lower with hleast | hlower
  · have := h.least
    omega
  · have hpow : (2 : ℚ) ^ (e + 53) ≤ 2 ^ (e' + 52) := two_zpow_le (by omega)
    exact absurd h.upper (not_lt.mpr (hpow.trans hlower))

/-- The units are determined by the quotient. -/
theorem Fits.unique {q : ℚ} {e e' : Int} (h : Fits q e) (h' : Fits q e') : e = e' :=
  le_antisymm (h'.le h) (h.le h')

/-- A positive quotient lies within a factor of two of the power that its bits give. -/
theorem quotient_bounds {num den : Nat} (hnum : 0 < num) (hden : 0 < den) :
    (2 : ℚ) ^ ((num.log2 : Int) - den.log2 - 1) ≤ (num : ℚ) / den ∧
      (num : ℚ) / den < 2 ^ ((num.log2 : Int) - den.log2 + 1) := by
  have hlow {n : Nat} (hn : 0 < n) : (2 : ℚ) ^ (n.log2 : Int) ≤ n := by
    rw [zpow_natCast]
    exact_mod_cast Nat.log2_self_le (Nat.ne_of_gt hn)
  have hhigh (n : Nat) : (n : ℚ) < 2 ^ ((n.log2 : Int) + 1) := by
    have : n < 2 ^ (n.log2 + 1) := Nat.lt_log2_self
    exact_mod_cast this
  have hpos : (0 : ℚ) < den := Nat.cast_pos.mpr hden
  constructor
  · rw [le_div_iff₀ hpos]
    calc (2 : ℚ) ^ ((num.log2 : Int) - den.log2 - 1) * den
        ≤ 2 ^ ((num.log2 : Int) - den.log2 - 1) * 2 ^ ((den.log2 : Int) + 1) := by
          gcongr
          exact (hhigh den).le
      _ = 2 ^ (num.log2 : Int) := by
          rw [← zpow_add₀ two_ne_zero]
          congr 1
          omega
      _ ≤ num := hlow hnum
  · rw [div_lt_iff₀ hpos]
    calc (num : ℚ) < 2 ^ ((num.log2 : Int) + 1) := hhigh num
      _ = 2 ^ ((num.log2 : Int) - den.log2 + 1) * 2 ^ (den.log2 : Int) := by
          rw [← zpow_add₀ two_ne_zero]
          congr 1
          omega
      _ ≤ 2 ^ ((num.log2 : Int) - den.log2 + 1) * den := by
          gcongr
          exact hlow hden

theorem fits_unitExponent {num den : Nat} (hnum : 0 < num) (hden : 0 < den) :
    Fits ((num : ℚ) / den) (unitExponent num den) := by
  obtain ⟨hlow, hhigh⟩ := quotient_bounds hnum hden
  rw [unitExponent]
  set low := max ((num.log2 : Int) - den.log2 - 53) (-1074) with hmax
  obtain ⟨hpos, hunits⟩ := inUnits_eq num hden low
  have hbits : (inUnits num den low).1 / (inUnits num den low).2 < Nat.pow 2 53 ↔
      (num : ℚ) / den < 2 ^ (low + 53) := by
    rw [Nat.div_lt_iff_lt_mul hpos, zpow_add₀ two_ne_zero, mul_comm ((2 : ℚ) ^ low),
      ← div_lt_iff₀ (by positivity), ← hunits, div_lt_iff₀ (Nat.cast_pos.mpr hpos)]
    exact_mod_cast Iff.rfl
  simp only
  split
  case isTrue hfew =>
    refine ⟨le_max_right _ _, hbits.mp hfew, ?_⟩
    rcases max_choice ((num.log2 : Int) - den.log2 - 53) (-1074) with hleft | hright
    · refine Or.inr ((two_zpow_le ?_).trans hlow)
      omega
    · exact Or.inl (hmax.trans hright)
  case isFalse hmany =>
    refine ⟨by omega, hhigh.trans_le (two_zpow_le (by omega)), Or.inr ?_⟩
    rw [hbits, not_lt] at hmany
    refine (two_zpow_le ?_).trans hmany
    omega

/-- The units of a quotient are the ones that fit. -/
theorem unitExponent_eq {num den : Nat} {e : Int} (hnum : 0 < num) (hden : 0 < den)
    (h : Fits ((num : ℚ) / den) e) : unitExponent num den = e :=
  (fits_unitExponent hnum hden).unique h

/-! ## Rounding a quotient -/

/-- Equal quotients round to the same datum. -/
theorem ofRatio_congr (negative : Bool) {num den num' den' : Nat} (hden : 0 < den)
    (hden' : 0 < den') (h : num * den' = num' * den) :
    ofRatio negative num den = ofRatio negative num' den' := by
  have hzero : num = 0 ↔ num' = 0 := by
    have hne := Nat.ne_of_gt hden
    have hne' := Nat.ne_of_gt hden'
    constructor
    · rintro rfl
      simpa [hne] using h.symm
    · rintro rfl
      simpa [hne'] using h
  have hquotient : (num : ℚ) / den = (num' : ℚ) / den' := by
    rw [div_eq_div_iff (by positivity) (by positivity)]
    exact_mod_cast h
  rw [ofRatio, ofRatio]
  by_cases hnum : num = 0
  · rw [if_pos hnum, if_pos (hzero.mp hnum)]
  · have hnum' : num' ≠ 0 := fun h' => hnum (hzero.mpr h')
    have hunit : unitExponent num den = unitExponent num' den' := by
      refine unitExponent_eq (Nat.pos_of_ne_zero hnum) hden ?_
      rw [hquotient]
      exact fits_unitExponent (Nat.pos_of_ne_zero hnum') hden'
    rw [if_neg hnum, if_neg hnum', hunit]
    simp only
    obtain ⟨hpos, heq⟩ := inUnits_eq num hden (unitExponent num' den')
    obtain ⟨hpos', heq'⟩ := inUnits_eq num' hden' (unitExponent num' den')
    rw [hquotient, ← heq', div_eq_div_iff (by positivity) (by positivity)] at heq
    rw [divEven_congr hpos hpos' (by exact_mod_cast heq)]

/-- The sign does not change which magnitude a quotient rounds to. -/
theorem exists_ofRatio_eq (num den : Nat) :
    ∃ rank, ∀ negative, ofRatio negative num den = ofRank negative rank := by
  by_cases hnum : num = 0
  · exact ⟨0, fun negative => by rw [ofRatio, if_pos hnum, zero]⟩
  · exact ⟨_, fun negative => by rw [ofRatio, if_neg hnum]⟩

theorem ofRank_congr {a : Bool} {rank rank' : Nat} (h : ofRank a rank = ofRank a rank')
    (negative : Bool) : ofRank negative rank = ofRank negative rank' := by
  rw [ofRank, ofRank] at h
  rw [ofRank, ofRank]
  split at h
  case isTrue =>
    split at h
    · cases h
      rfl
    · cases h
  case isFalse hrank =>
    split at h
    · cases h
    case isFalse hrank' => rw [dif_neg hrank, dif_neg hrank']

/-- A whole number from the bound upward rounds to an infinity. -/
theorem ofRatio_one_of_overflow (negative : Bool) {num : Nat} (h : overflow ≤ num) :
    ofRatio negative num 1 = .infinite negative := by
  have hpos : 0 < num := (lt_overflow (two_pow_pos 53)).trans_le h
  have hfinite := isFinite_ofRatio_one hpos negative
  obtain ⟨rank, hrank⟩ := exists_ofRatio_eq num 1
  rw [hrank] at hfinite ⊢
  rw [isFinite_ofRank] at hfinite
  rw [ofRank, dif_neg]
  omega

/-- A quotient below half the least magnitude, which is `2 ^ -k`, rounds to zero. -/
theorem ofRatio_of_small (negative : Bool) {num den k : Nat} (hk : k = 1074)
    (h : 2 * (num * Nat.pow 2 k) < den) : ofRatio negative num den = zero negative := by
  rw [ofRatio]
  split
  · rfl
  case isFalse hnum =>
    have hden : 0 < den := by omega
    have hlt : num * Nat.pow 2 k < den := by omega
    have hquotient : (num : ℚ) / den < 2 ^ (-(k : Int)) := by
      rw [div_lt_iff₀ (by positivity), zpow_neg, ← div_eq_inv_mul, lt_div_iff₀ (by positivity)]
      exact_mod_cast hlt
    have hunit : unitExponent num den = -(k : Int) := by
      refine unitExponent_eq (Nat.pos_of_ne_zero hnum) hden ⟨by omega, ?_, Or.inl (by omega)⟩
      exact hquotient.trans_le (two_zpow_le (by omega))
    have hunits : inUnits num den (-(k : Int)) = (num * Nat.pow 2 k, den) := by
      rw [inUnits, if_neg (by omega), neg_neg, Int.toNat_natCast]
    have hrank : (-(k : Int) + 1074).toNat = 0 := by omega
    have hround : divEven (num * Nat.pow 2 k) den = 0 := by
      rw [divEven, Nat.div_eq_of_lt hlt, Nat.mod_eq_of_lt hlt, if_pos h]
    simp only [hunit, hunits, hrank, hround, Nat.zero_mul, zero]

/-! ## Rounding a magnitude -/

/-- Each magnitude is its significand in units of its exponent. -/
theorem ratio_eq (rank : Nat) :
    ((ratio rank).1 : ℚ) / (ratio rank).2 = significand rank * 2 ^ exponent rank := by
  rw [ratio]
  split
  case isTrue he =>
    obtain ⟨k, hk⟩ := Int.eq_ofNat_of_zero_le he
    simp [hk]
  case isFalse he =>
    obtain ⟨k, hk⟩ : ∃ k : Nat, exponent rank = -(k : Int) := ⟨(-exponent rank).toNat, by omega⟩
    simp [hk, div_eq_mul_inv]

/-- The significand and the exponent of a magnitude give back its rank. -/
theorem rank_eq (rank : Nat) :
    (exponent rank + 1074).toNat * Nat.pow 2 52 + significand rank = rank := by
  rw [exponent, significand]
  have hpos := two_pow_pos 52
  split
  · simp
  case isFalse hnormal =>
    have hdiv := Nat.div_add_mod rank (Nat.pow 2 52)
    have hone : 1 ≤ rank / Nat.pow 2 52 :=
      (Nat.le_div_iff_mul_le hpos).mpr (by omega)
    obtain ⟨k, hk⟩ := Nat.exists_eq_add_of_le hone
    have hexp : ((rank / Nat.pow 2 52 : Nat) - 1075 + 1074 : Int).toNat = k := by omega
    rw [hexp]
    rw [hk, Nat.mul_add, Nat.mul_one, Nat.mul_comm _ k] at hdiv
    omega

theorem fits_exponent (rank : Nat) :
    Fits (significand rank * 2 ^ exponent rank) (exponent rank) := by
  have hpos : (0 : ℚ) < 2 ^ exponent rank := by positivity
  have hupper : significand rank < 2 ^ 53 := by
    have hmod := Nat.mod_lt rank (two_pow_pos 52)
    rw [significand]
    split
    · simp only [Nat.pow_eq] at *
      omega
    · simp only [Nat.pow_eq] at *
      omega
  have hlower : exponent rank = -1074 ∨ 2 ^ 52 ≤ significand rank := by
    rw [exponent, significand]
    split
    · exact Or.inl rfl
    · exact Or.inr (Nat.le_add_right _ _)
  refine ⟨?_, ?_, ?_⟩
  · rw [exponent]
    split
    · exact le_refl _
    case isFalse hnormal =>
      have hone : 1 ≤ rank / Nat.pow 2 52 :=
        (Nat.le_div_iff_mul_le (two_pow_pos 52)).mpr (by omega)
      omega
  · rw [zpow_add₀ two_ne_zero, mul_comm]
    gcongr
    exact_mod_cast hupper
  · refine hlower.imp id fun h => ?_
    rw [zpow_add₀ two_ne_zero, mul_comm]
    gcongr
    exact_mod_cast h

/-- A magnitude rounds to itself. -/
theorem ofRatio_ratio (negative : Bool) (rank : Nat) :
    ofRatio negative (ratio rank).1 (ratio rank).2 = ofRank negative rank := by
  have hden := ratio_den_pos rank
  have hvalue := ratio_eq rank
  have hzero : (ratio rank).1 = 0 → rank = 0 := by
    intro h
    have hsig : significand rank = 0 := by
      rw [h, Nat.cast_zero, zero_div] at hvalue
      have hpos : (2 : ℚ) ^ exponent rank ≠ 0 := by positivity
      exact_mod_cast (mul_eq_zero.mp hvalue.symm).resolve_right hpos
    rw [significand] at hsig
    split at hsig
    · exact hsig
    · have := two_pow_pos 52
      omega
  rw [ofRatio]
  split
  case isTrue h => rw [hzero h, zero]
  case isFalse h =>
    have hunit : unitExponent (ratio rank).1 (ratio rank).2 = exponent rank := by
      refine unitExponent_eq (Nat.pos_of_ne_zero h) hden ?_
      rw [hvalue]
      exact fits_exponent rank
    obtain ⟨hpos, hunits⟩ := inUnits_eq (ratio rank).1 hden (exponent rank)
    have hround : divEven (inUnits (ratio rank).1 (ratio rank).2 (exponent rank)).1
        (inUnits (ratio rank).1 (ratio rank).2 (exponent rank)).2 = significand rank := by
      rw [hvalue, mul_div_assoc, div_self (by positivity), mul_one,
        div_eq_iff (by positivity)] at hunits
      have hmul : (inUnits (ratio rank).1 (ratio rank).2 (exponent rank)).1 =
          significand rank * (inUnits (ratio rank).1 (ratio rank).2 (exponent rank)).2 := by
        exact_mod_cast hunits
      rw [hmul, divEven_of_dvd hpos (Nat.mul_mod_left _ _), Nat.mul_div_cancel _ hpos]
    simp only [hunit, hround, rank_eq]

/-! ## Rounding a decimal -/

theorem ten_pow_le {m n : Nat} (h : m ≤ n) : Nat.pow 10 m ≤ Nat.pow 10 n :=
  Nat.pow_le_pow_right (by decide) h

/-- A number that ends in so many zeros rounds to an infinity. -/
theorem ofRatio_of_many_zeros (negative : Bool) {digits e : Nat} (hdigits : 0 < digits)
    (he : 310 ≤ e) : ofRatio negative (digits * 10 ^ e) 1 = .infinite negative := by
  obtain ⟨n, hn, hoverflow⟩ : ∃ n, n ≤ 310 ∧ overflow ≤ Nat.pow 10 n :=
    ⟨310, le_refl _, by decide +kernel⟩
  apply ofRatio_one_of_overflow
  calc overflow ≤ Nat.pow 10 n := hoverflow
    _ ≤ Nat.pow 10 e := ten_pow_le (hn.trans he)
    _ ≤ digits * 10 ^ e := Nat.le_mul_of_pos_left _ hdigits

/-- A number with so many places before its first digit rounds to zero. -/
theorem ofRatio_of_many_places (negative : Bool) {digits e : Nat} (he : 331 + digits.log2 ≤ e) :
    ofRatio negative digits (10 ^ e) = zero negative := by
  have hbits : digits < Nat.pow 2 (digits.log2 + 1) := Nat.lt_log2_self
  obtain ⟨k, n, hk, hn, hscale⟩ : ∃ k n, k = 1074 ∧ n ≤ 330 ∧ 2 * Nat.pow 2 k ≤ Nat.pow 10 n :=
    ⟨1074, 330, rfl, le_refl _, by decide +kernel⟩
  apply ofRatio_of_small negative hk
  calc 2 * (digits * Nat.pow 2 k) = digits * (2 * Nat.pow 2 k) := Nat.mul_left_comm ..
    _ < Nat.pow 2 (digits.log2 + 1) * (2 * Nat.pow 2 k) :=
        Nat.mul_lt_mul_of_pos_right hbits (Nat.mul_pos Nat.two_pos (two_pow_pos k))
    _ ≤ Nat.pow 10 (digits.log2 + 1) * Nat.pow 10 n :=
        Nat.mul_le_mul (Nat.pow_le_pow_left (by decide) _) hscale
    _ = Nat.pow 10 (digits.log2 + 1 + n) := (Nat.pow_add ..).symm
    _ ≤ Nat.pow 10 e := ten_pow_le (by omega)

/-- A decimal is rounded as the quotient that it is, without any bounds. -/
theorem ofDecimal_eq (negative : Bool) (digits : Nat) (exponent : Int) :
    ofDecimal negative digits exponent =
      ofRatio negative (digits * 10 ^ exponent.toNat) (10 ^ (-exponent).toNat) := by
  rw [ofDecimal]
  by_cases hdigits : digits = 0
  · rw [if_pos hdigits, hdigits, Nat.zero_mul, ofRatio, if_pos rfl]
  rw [if_neg hdigits]
  rcases lt_or_ge exponent 0 with hpart | hwhole
  · have hexp : exponent.toNat = 0 := by omega
    have hlarge : ¬310 ≤ exponent := by omega
    rw [if_neg hlarge, if_neg (not_le.mpr hpart), hexp, Nat.pow_zero, Nat.mul_one]
    split
    · exact (ofRatio_of_many_places negative (by omega)).symm
    · rfl
  · have hexp : (-exponent).toNat = 0 := by omega
    have hsmall : ¬exponent + digits.log2 + 1 ≤ -330 := by omega
    rw [if_neg hsmall, if_pos hwhole, hexp, Nat.pow_zero]
    split
    · exact (ofRatio_of_many_zeros negative (Nat.pos_of_ne_zero hdigits) (by omega)).symm
    · rfl

/-- Zeros at the end of the digits do not matter. -/
theorem ofDecimal_shift (negative : Bool) (digits k : Nat) (exponent : Int) :
    ofDecimal negative (digits * 10 ^ k) (exponent - k) = ofDecimal negative digits exponent := by
  rw [ofDecimal_eq, ofDecimal_eq]
  refine ofRatio_congr negative (Nat.pow_pos (by decide)) (Nat.pow_pos (by decide)) ?_
  have hexp : k + (exponent - k).toNat + (-exponent).toNat =
      exponent.toNat + (-(exponent - k)).toNat := by
    omega
  calc digits * 10 ^ k * 10 ^ (exponent - k).toNat * 10 ^ (-exponent).toNat
      = digits * 10 ^ (k + (exponent - k).toNat + (-exponent).toNat) := by
        rw [Nat.pow_add, Nat.pow_add, Nat.mul_assoc, Nat.mul_assoc, Nat.mul_assoc]
    _ = digits * 10 ^ exponent.toNat * 10 ^ (-(exponent - k)).toNat := by
        rw [hexp, Nat.pow_add, Nat.mul_assoc]

/-- Taking zeros off a decimal does not change what it is rounded to. -/
theorem ofDecimal_dropZeros (negative : Bool) (fuel : Nat) (d : Decimal) :
    ofDecimal negative (d.dropZeros fuel).digits (d.dropZeros fuel).exponent =
      ofDecimal negative d.digits d.exponent := by
  induction fuel generalizing d with
  | zero => rfl
  | succ fuel ih =>
      rw [Decimal.dropZeros]
      split
      case isTrue h =>
        have hdigits : d.digits = d.digits / 10 * 10 ^ 1 := by omega
        have hshift := ofDecimal_shift negative (d.digits / 10) 1 (d.exponent + 1)
        rw [ih, ← hshift, ← hdigits]
        congr 1
        omega
      case isFalse => rfl

/-- The exact expansion of a magnitude reads back. -/
theorem ofDecimal_expansion (negative : Bool) (rank : Nat) :
    ofDecimal negative (expansion rank).digits (expansion rank).exponent =
      ofRank negative rank := by
  rw [← ofRatio_ratio, ofDecimal_eq]
  refine ofRatio_congr negative (Nat.pow_pos (by decide)) (ratio_den_pos rank) ?_
  rw [expansion, ratio]
  split
  case isTrue he => simp
  case isFalse he =>
    have hexp : (exponent rank).toNat = 0 := by omega
    have hten : 10 ^ (-exponent rank).toNat =
        5 ^ (-exponent rank).toNat * 2 ^ (-exponent rank).toNat := by
      rw [← Nat.mul_pow]
    simp only [hexp, hten, Nat.pow_eq, Nat.pow_zero, Nat.mul_one]
    rw [Nat.mul_assoc]

/-- The shortest decimal of a magnitude reads back. -/
theorem ofDecimal_shortest (negative : Bool) (rank : Nat) :
    ofDecimal negative (shortest rank).digits (shortest rank).exponent =
      ofRank negative rank := by
  simp only [shortest, Decimal.normal, ofDecimal_dropZeros]
  cases hfound : (List.range 17).findSome? fun (k : Nat) =>
      nearestOnGrid rank (digitsBeforePoint rank - ((k : Int) + 1)) with
  | none => exact ofDecimal_expansion negative rank
  | some d =>
      obtain ⟨k, -, hd⟩ := List.exists_of_findSome?_eq_some hfound
      have hback : readsBack rank d = true := List.find?_some hd
      rw [readsBack, beq_iff_eq, ofDecimal_eq] at hback
      obtain ⟨other, hother⟩ := exists_ofRatio_eq (d.digits * 10 ^ d.exponent.toNat)
        (10 ^ (-d.exponent).toNat)
      rw [hother] at hback
      rw [Option.getD_some, ofDecimal_eq, hother]
      exact ofRank_congr hback negative

end Binary64

end ScreenDesign
