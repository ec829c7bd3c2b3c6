import ScreenDesign.Proofs.Number.Rounding

/-!
# Whole numbers as binary64 numbers

A whole number of at most fifty-three bits is a binary64 number (`exists_ratio_eq`).  So
with one digit after the point it is written with its own digits and a zero
(`onePlace_of_double`).  A binary64 number that is not whole is far from too large, so twice
the number is finite (`isFinite_double`).
-/

namespace ScreenDesign

namespace Binary64

/-- There is a rank with a given exponent field and a given significand. -/
theorem exists_rank {field sig : Nat} (hfield : 0 < field) (hlow : Nat.pow 2 52 ≤ sig)
    (hhigh : sig < 2 * Nat.pow 2 52) :
    ∃ rank, rank < (field + 1) * Nat.pow 2 52 ∧ significand rank = sig ∧
      exponent rank = (field : Int) - 1075 := by
  have hpos := two_pow_pos 52
  refine ⟨Nat.pow 2 52 * field + (sig - Nat.pow 2 52), ?_⟩
  rw [significand, exponent]
  generalize Nat.pow 2 52 = unit at *
  have hrest : sig - unit < unit := by omega
  have hnormal : ¬unit * field + (sig - unit) < unit := by
    have := Nat.le_mul_of_pos_right unit hfield
    omega
  rw [if_neg hnormal, if_neg hnormal, Nat.mul_add_mod, Nat.mod_eq_of_lt hrest,
    Nat.mul_add_div hpos, Nat.div_eq_of_lt hrest]
  refine ⟨?_, by omega, rfl⟩
  rw [Nat.add_one_mul, Nat.mul_comm field]
  exact Nat.add_lt_add_left hrest _

theorem ratio_zero : (ratio 0).1 = 0 := by
  have hsig : significand 0 = 0 := if_pos (two_pow_pos 52)
  rw [ratio, hsig]
  split
  · exact Nat.zero_mul _
  · rfl

/-- A positive whole number of at most fifty-three bits is a magnitude. -/
theorem exists_ratio_eq {n : Nat} (hpos : 0 < n) (h : n < Nat.pow 2 53) :
    ∃ rank, rank < finiteCount ∧ (ratio rank).1 = n * (ratio rank).2 := by
  have hlog : n.log2 ≤ 52 := Nat.le_of_lt_succ ((Nat.log2_lt (Nat.ne_of_gt hpos)).mpr h)
  obtain ⟨gap, hgap⟩ := Nat.exists_eq_add_of_le hlog
  have hlow : Nat.pow 2 52 ≤ n * Nat.pow 2 gap := by
    calc Nat.pow 2 52 = Nat.pow 2 n.log2 * Nat.pow 2 gap := two_pow_split hgap.symm
      _ ≤ n * Nat.pow 2 gap := Nat.mul_le_mul_right _ (Nat.log2_self_le (Nat.ne_of_gt hpos))
  have hhigh : n * Nat.pow 2 gap < 2 * Nat.pow 2 52 := by
    calc n * Nat.pow 2 gap < Nat.pow 2 (n.log2 + 1) * Nat.pow 2 gap :=
          Nat.mul_lt_mul_of_pos_right Nat.lt_log2_self (two_pow_pos gap)
      _ = Nat.pow 2 (1 + 52) := (two_pow_split (by omega)).symm
      _ = 2 * Nat.pow 2 52 := two_pow_split rfl
  obtain ⟨rank, hrank, hsig, hexp⟩ := exists_rank (Nat.succ_pos (n.log2 + 1022)) hlow hhigh
  refine ⟨rank, hrank.trans_le (Nat.mul_le_mul_right _ (by omega)), ?_⟩
  rw [ratio, hsig, hexp]
  split
  case isTrue hfull =>
    have hgap : gap = 0 := by omega
    have hshift : (((n.log2 + 1022).succ : Nat) - 1075 : Int).toNat = 0 := by omega
    rw [hgap, hshift]
    simp
  case isFalse hpart =>
    have hshift : (-(((n.log2 + 1022).succ : Nat) - 1075 : Int)).toNat = gap := by omega
    rw [hshift]

/-- Such a number rounds to a datum that is equal to it. -/
theorem onePlace_ofRatio_one (negative : Bool) {n : Nat} (h : n < Nat.pow 2 53) :
    (ofRatio negative n 1).onePlace =
      String.ofList (withSign negative (Nat.toDigits 10 n ++ ['.', '0'])) := by
  obtain ⟨rank, hrank, hratio⟩ : ∃ rank, rank < finiteCount ∧
      (ratio rank).1 = n * (ratio rank).2 := by
    rcases Nat.eq_zero_or_pos n with rfl | hpos
    · exact ⟨0, Nat.mul_pos (by decide) (two_pow_pos 52), by rw [ratio_zero, Nat.zero_mul]⟩
    · exact exists_ratio_eq hpos h
  have hden := ratio_den_pos rank
  have hsame : ofRatio negative n 1 = ofRank negative rank := by
    rw [← ofRatio_ratio]
    refine ofRatio_congr negative Nat.one_pos hden ?_
    rw [hratio, Nat.mul_one]
  have htenths : divEven (10 * (ratio rank).1) (ratio rank).2 = 10 * n := by
    rw [hratio, ← Nat.mul_assoc, divEven_of_dvd hden (Nat.mul_mod_left _ _),
      Nat.mul_div_cancel _ hden]
  rw [hsame, ofRank, dif_pos hrank, onePlace]
  simp only [htenths, Nat.mul_div_cancel_left n (by decide : 0 < 10), Nat.mul_mod_right]
  rfl

/-! ## Numbers that are not whole -/

/-- A quotient that is far from too large rounds to a finite datum. -/
theorem isFinite_ofRatio_of_lt (negative : Bool) {num den : Nat} (hden : 0 < den)
    (h : (num : ℚ) / den < 2 ^ (54 : Int)) : (ofRatio negative num den).isFinite = true := by
  rw [ofRatio]
  split
  case isTrue => exact isFinite_ofRank.mpr (Nat.mul_pos (by decide) (two_pow_pos 52))
  case isFalse hnum =>
    have hfits := fits_unitExponent (Nat.pos_of_ne_zero hnum) hden
    generalize unitExponent num den = e at hfits
    have hexp : e ≤ 1 := by
      rcases hfits.lower with hleast | hlower
      · omega
      · have := (zpow_lt_zpow_iff_right₀ (by norm_num)).mp (hlower.trans_lt h)
        omega
    obtain ⟨hpos, hunits⟩ := inUnits_eq num hden e
    have hfloor : (inUnits num den e).1 / (inUnits num den e).2 < Nat.pow 2 53 := by
      rw [Nat.div_lt_iff_lt_mul hpos]
      have hquotient := hfits.upper
      rw [zpow_add₀ two_ne_zero, mul_comm, ← div_lt_iff₀ (by positivity), ← hunits,
        div_lt_iff₀ (Nat.cast_pos.mpr hpos)] at hquotient
      exact_mod_cast hquotient
    have hround := divEven_le (inUnits num den e).1 (inUnits num den e).2
    have hrank : (e + 1074).toNat * Nat.pow 2 52 ≤ 1075 * Nat.pow 2 52 :=
      Nat.mul_le_mul_right _ (by omega)
    change (ofRank negative ((e + 1074).toNat * Nat.pow 2 52 +
      divEven (inUnits num den e).1 (inUnits num den e).2)).isFinite = true
    rw [isFinite_ofRank, finiteCount]
    simp only [Nat.pow_eq] at *
    omega

/-- A datum that is not whole has a negative exponent, so twice the datum is finite. -/
theorem isFinite_double {x : Binary64} (hfinite : x.isFinite = true) (h : x.whole? = none) :
    x.double.isFinite = true := by
  cases x with
  | finite negative rank =>
      have hden := ratio_den_pos rank.val
      have hexp : exponent rank.val ≤ -1 := by
        by_contra hlarge
        have hwhole : (ratio rank.val).2 = 1 := by
          rw [ratio, if_pos (by omega)]
        simp only [whole?, hwhole, Nat.mod_one, if_pos] at h
        cases h
      have hvalue : ((ratio rank.val).1 : ℚ) / (ratio rank.val).2 < 2 ^ (52 : Int) := by
        rw [ratio_eq]
        exact (fits_exponent rank.val).upper.trans_le (two_zpow_le (by omega))
      have htwice : ((2 * (ratio rank.val).1 : Nat) : ℚ) / (ratio rank.val).2 < 2 ^ (54 : Int) := by
        calc ((2 * (ratio rank.val).1 : Nat) : ℚ) / (ratio rank.val).2
            = 2 * ((ratio rank.val).1 / (ratio rank.val).2) := by
              rw [Nat.cast_mul, Nat.cast_ofNat, mul_div_assoc]
          _ < 2 * 2 ^ (52 : Int) := by gcongr
          _ = 2 ^ (1 + 52 : Int) := (zpow_one_add₀ two_ne_zero _).symm
          _ ≤ 2 ^ (54 : Int) := two_zpow_le (by decide)
      exact isFinite_ofRatio_of_lt negative hden htwice
  | infinite negative => cases hfinite
  | nan => cases hfinite

end Binary64

/-- A whole number of at most fifty-three bits is written with its own digits. -/
theorem Dart.onePlace_of_double {n : Int} {x : Binary64} (hn : n.natAbs < Nat.pow 2 53)
    (h : double (.int n) = .ok x) : x.onePlace = decimalText n ++ ".0" := by
  rw [double, Number.binary64?] at h
  cases hx : Binary64.ofInt? n with
  | none =>
      rw [hx] at h
      cases h
  | some y =>
      rw [hx] at h
      cases h
      rw [← (Binary64.ofInt?_eq_some_iff.mp hx).1, Binary64.onePlace_ofRatio_one _ hn,
        decimalText, Nat.repr]
      by_cases hneg : n < 0
      · simp [hneg, Binary64.withSign, String.append_assoc]
      · simp [hneg, Binary64.withSign]

end ScreenDesign
