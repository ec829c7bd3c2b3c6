import ScreenDesign.Proofs.Number.Whole

/-!
# The nearest whole number of few bits

A number has *few bits* if it is a number of at most fifty-three bits with zeros behind it
(`FewBits`).  The whole number that a binary64 number can be is one of these, and every number with
few bits that is not too large is one.

`roundBits` cuts a number to fifty-three bits, a half going to the even one.  No number with few
bits is nearer (`natAbs_sub_roundBits_le`), so exactly the numbers with few bits stay as they are.
The binary64 number nearest to a whole number is whole, and it is what `roundBits` gives
(`whole?_ofRatio_one`).  `roundWhole` is the same for numbers with a sign.
-/

namespace ScreenDesign

/-- Rounding goes to the nearer of the two whole numbers around a quotient. -/
theorem divEven_cases (num den : Nat) :
    (divEven num den = num / den ∧ 2 * (num % den) ≤ den) ∨
      (divEven num den = num / den + 1 ∧ den ≤ 2 * (num % den)) := by
  simp only [divEven]
  split
  case isTrue hbelow => exact .inl ⟨rfl, hbelow.le⟩
  case isFalse =>
      split
      case isTrue habove => exact .inr ⟨rfl, habove.le⟩
      case isFalse => omega

/-- No multiple of a number is nearer than the one that rounding the quotient finds. -/
theorem natAbs_sub_divEven_le (num : Nat) {den : Nat} (hden : 0 < den) (k : Nat) :
    ((num : Int) - (divEven num den * den : Nat)).natAbs ≤
      ((num : Int) - (k * den : Nat)).natAbs := by
  have hsplit := Nat.div_add_mod' num den
  have hrest := Nat.mod_lt num hden
  have hside : k * den ≤ num / den * den ∨ num / den * den + den ≤ k * den := by
    rcases Nat.lt_or_ge (num / den) k with habove | hbelow
    · have hnext := Nat.mul_le_mul_right den habove
      rw [Nat.succ_mul] at hnext
      exact .inr hnext
    · exact .inl (Nat.mul_le_mul_right den hbelow)
  rcases divEven_cases num den with ⟨hfloor, hnear⟩ | ⟨hceil, hnear⟩
  · rw [hfloor]
    omega
  · rw [hceil, Nat.succ_mul]
    omega

namespace Binary64

/-! ## Few bits -/

/-- A number of at most fifty-three bits with zeros behind it. -/
def FewBits (n : Nat) : Prop := ∃ bits shift, bits < Nat.pow 2 53 ∧ n = bits * Nat.pow 2 shift

theorem fewBits_of_lt {n : Nat} (h : n < Nat.pow 2 53) : FewBits n :=
  ⟨n, 0, h, (Nat.mul_one n).symm⟩

/-- A number cut to fifty-three bits, a half going to the even one. -/
def roundBits (n : Nat) : Nat :=
  divEven n (Nat.pow 2 (n.log2 - 52)) * Nat.pow 2 (n.log2 - 52)

theorem roundBits_of_log2_le {n : Nat} (h : n.log2 ≤ 52) : roundBits n = n := by
  rw [roundBits, Nat.sub_eq_zero_of_le h]
  exact (Nat.mul_one _).trans ((divEven_of_dvd Nat.one_pos (Nat.mod_one n)).trans (Nat.div_one n))

/-- A number of at least fifty-three bits has fifty-three in front of its last ones. -/
theorem leading_bounds {n : Nat} (h : 52 ≤ n.log2) :
    Nat.pow 2 52 ≤ n / Nat.pow 2 (n.log2 - 52) ∧
      n / Nat.pow 2 (n.log2 - 52) < 2 * Nat.pow 2 52 := by
  have hpos : 0 < n := by
    rcases Nat.eq_zero_or_pos n with rfl | hpos
    · exact absurd h (by decide)
    · exact hpos
  exact (inUnits_bounds hpos (inUnits_of_le_log2 h)).2

theorem fewBits_roundBits (n : Nat) : FewBits (roundBits n) := by
  rcases Nat.le_total n.log2 52 with hsmall | hlarge
  · rw [roundBits_of_log2_le hsmall]
    exact fewBits_of_lt (Nat.lt_log2_self.trans_le (Nat.pow_le_pow_right Nat.two_pos (by omega)))
  · obtain ⟨-, hhigh⟩ := leading_bounds hlarge
    have hceil := divEven_le n (Nat.pow 2 (n.log2 - 52))
    have hpow : Nat.pow 2 53 = 2 * Nat.pow 2 52 := by decide
    rw [roundBits]
    rcases Nat.lt_or_ge (divEven n (Nat.pow 2 (n.log2 - 52))) (Nat.pow 2 53) with hfew | hmany
    · exact ⟨_, _, hfew, rfl⟩
    · -- The first number of fifty-four bits is a power of two.
      have hpower : divEven n (Nat.pow 2 (n.log2 - 52)) = Nat.pow 2 53 := by omega
      refine ⟨1, 53 + (n.log2 - 52), by decide, ?_⟩
      rw [hpower, Nat.one_mul]
      exact (two_pow_split rfl).symm

/-- No number with few bits is nearer to a number than its rounding. -/
theorem natAbs_sub_roundBits_le (n : Nat) {k : Nat} (hk : FewBits k) :
    ((n : Int) - roundBits n).natAbs ≤ ((n : Int) - k).natAbs := by
  obtain ⟨bits, shift, hbits, rfl⟩ := hk
  have hunit : 0 < Nat.pow 2 (n.log2 - 52) := two_pow_pos _
  rcases Nat.lt_or_ge shift (n.log2 - 52) with hfine | hcoarse
  · -- A number in smaller units has a bit less, so the least number in these units is between.
    have hleast := (Nat.le_div_iff_mul_le hunit).mp (leading_bounds (by omega : 52 ≤ n.log2)).1
    have hbelow : bits * Nat.pow 2 shift < Nat.pow 2 52 * Nat.pow 2 (n.log2 - 52) :=
      calc bits * Nat.pow 2 shift < Nat.pow 2 53 * Nat.pow 2 shift :=
            Nat.mul_lt_mul_of_pos_right hbits (two_pow_pos _)
        _ = Nat.pow 2 (53 + shift) := (two_pow_split rfl).symm
        _ ≤ Nat.pow 2 (52 + (n.log2 - 52)) := Nat.pow_le_pow_right Nat.two_pos (by omega)
        _ = Nat.pow 2 52 * Nat.pow 2 (n.log2 - 52) := two_pow_split rfl
    have hnearest := natAbs_sub_divEven_le n hunit (Nat.pow 2 52)
    rw [roundBits]
    omega
  · have hmultiple : bits * Nat.pow 2 shift =
        bits * Nat.pow 2 (shift - (n.log2 - 52)) * Nat.pow 2 (n.log2 - 52) := by
      rw [Nat.mul_assoc, ← two_pow_split (Nat.sub_add_cancel hcoarse)]
    rw [hmultiple]
    exact natAbs_sub_divEven_le n hunit _

/-! ## Rounding to a binary64 number -/

/-- The magnitude whose rank is put together from an exponent and a significand. -/
theorem ratio_units {field sig : Nat} (hlow : Nat.pow 2 52 ≤ sig)
    (hhigh : sig ≤ 2 * Nat.pow 2 52) :
    ((ratio (field * Nat.pow 2 52 + sig)).1 : ℚ) / (ratio (field * Nat.pow 2 52 + sig)).2 =
      sig * 2 ^ ((field : Int) - 1074) := by
  have hrank {field sig : Nat} (hlow : Nat.pow 2 52 ≤ sig) (hlt : sig < 2 * Nat.pow 2 52) :
      significand (field * Nat.pow 2 52 + sig) = sig ∧
        exponent (field * Nat.pow 2 52 + sig) = (field : Int) - 1074 := by
    obtain ⟨rank, -, hsig, hexp⟩ := exists_rank (Nat.succ_pos field) hlow hlt
    have hsum := rank_eq rank
    have hfield : (exponent rank + 1074).toNat = field := by omega
    rw [hfield, hsig] at hsum
    rw [hsum]
    exact ⟨hsig, by omega⟩
  rw [ratio_eq]
  rcases Nat.lt_or_eq_of_le hhigh with hlt | heq
  · rw [(hrank hlow hlt).1, (hrank hlow hlt).2]
  · -- Twice the least significand is the least one of the next exponent.
    have hnext : field * Nat.pow 2 52 + sig = (field + 1) * Nat.pow 2 52 + Nat.pow 2 52 := by
      rw [heq, Nat.two_mul, Nat.add_one_mul, Nat.add_assoc]
    have hlt : Nat.pow 2 52 < 2 * Nat.pow 2 52 := by decide
    have hexp : ((field + 1 : Nat) : Int) - 1074 = 1 + ((field : Int) - 1074) := by omega
    rw [hnext, (hrank (le_refl _) hlt).1, (hrank (le_refl _) hlt).2, heq, hexp,
      zpow_one_add₀ two_ne_zero, Nat.cast_mul, Nat.cast_ofNat, mul_left_comm, mul_assoc]

/-- A magnitude that is a whole number is read as that number. -/
theorem whole?_of_ratio_eq (negative : Bool) {rank : Fin finiteCount} {n : Nat}
    (h : ((ratio rank.val).1 : ℚ) / (ratio rank.val).2 = n) :
    (finite negative rank).whole? = some (signed negative n) := by
  have hden := ratio_den_pos rank.val
  rw [div_eq_iff (Nat.cast_ne_zero.mpr (Nat.ne_of_gt hden))] at h
  have hnum : (ratio rank.val).1 = n * (ratio rank.val).2 := by exact_mod_cast h
  simp only [whole?, hnum, Nat.mul_mod_left, if_pos, Nat.mul_div_cancel n hden]

/-- In the units of fifty-three bits, a whole number is rounded to what these bits give. -/
theorem divEven_inUnits {n num den : Nat}
    (h : inUnits n 1 ((n.log2 : Int) - (52 : Nat)) = (num, den)) :
    (divEven num den : ℚ) * 2 ^ ((n.log2 : Int) - (52 : Nat)) = roundBits n := by
  rcases Nat.lt_or_ge n.log2 52 with hsmall | hlarge
  · have hgap : (-((n.log2 : Int) - (52 : Nat))).toNat = 52 - n.log2 := by omega
    have hneg : (n.log2 : Int) - (52 : Nat) = -((52 - n.log2 : Nat) : Int) := by omega
    rw [inUnits, if_neg (by omega), hgap, Prod.mk.injEq] at h
    obtain ⟨rfl, rfl⟩ := h
    rw [roundBits_of_log2_le hsmall.le, divEven_of_dvd Nat.one_pos (Nat.mod_one _), Nat.div_one,
      hneg, zpow_neg, zpow_natCast, Nat.cast_mul, Nat.pow_eq, Nat.cast_pow, Nat.cast_ofNat,
      mul_inv_cancel_right₀ (by positivity)]
  · rw [inUnits_of_le_log2 hlarge, Prod.mk.injEq] at h
    obtain ⟨rfl, rfl⟩ := h
    rw [roundBits, ← Int.ofNat_sub hlarge, zpow_natCast, Nat.cast_mul, Nat.pow_eq, Nat.cast_pow,
      Nat.cast_ofNat]

/-- The number nearest to a whole number that is not too large is whole, too. -/
theorem whole?_ofRatio_one (negative : Bool) {n : Nat} (hpos : 0 < n) (h : n < overflow) :
    (ofRatio negative n 1).whole? = some (signed negative (roundBits n)) := by
  have hfinite := (isFinite_ofRatio_one hpos negative).mpr h
  rw [ofRatio, if_neg (Nat.ne_of_gt hpos), unitExponent_one hpos] at hfinite ⊢
  rcases hunits : inUnits n 1 ((n.log2 : Int) - (52 : Nat)) with ⟨num, den⟩
  obtain ⟨-, hlow, hhigh⟩ := inUnits_bounds hpos hunits
  have hfloor := div_le_divEven num den
  have hceil := divEven_le num den
  have hfield : ((n.log2 : Int) - (52 : Nat) + 1074).toNat = n.log2 + 1022 := by omega
  have hexp : ((n.log2 + 1022 : Nat) : Int) - 1074 = (n.log2 : Int) - (52 : Nat) := by omega
  simp only [hunits, hfield, isFinite_ofRank] at hfinite ⊢
  rw [ofRank, dif_pos hfinite]
  refine whole?_of_ratio_eq negative ?_
  rw [ratio_units (hlow.trans hfloor) (by omega), hexp]
  exact divEven_inUnits hunits

/-! ## Numbers with a sign -/

/-- The whole number with few bits that is nearest to a whole number. -/
def roundWhole (n : Int) : Int := signed (decide (n < 0)) (roundBits n.natAbs)

theorem roundWhole_cases (n : Int) :
    (0 ≤ n ∧ roundWhole n = roundBits n.natAbs) ∨ (n < 0 ∧ roundWhole n = -roundBits n.natAbs) := by
  rcases Int.lt_or_le n 0 with hneg | hpos
  · exact .inr ⟨hneg, if_pos (decide_eq_true hneg)⟩
  · refine .inl ⟨hpos, if_neg ?_⟩
    rw [decide_eq_true_eq]
    omega

theorem fewBits_natAbs_roundWhole (n : Int) : FewBits (roundWhole n).natAbs := by
  have hfew := fewBits_roundBits n.natAbs
  rcases roundWhole_cases n with ⟨-, h⟩ | ⟨-, h⟩
  · rwa [h, Int.natAbs_natCast]
  · rwa [h, Int.natAbs_neg, Int.natAbs_natCast]

theorem natAbs_sub_roundWhole_le (n : Int) {k : Int} (hk : FewBits k.natAbs) :
    (n - roundWhole n).natAbs ≤ (n - k).natAbs := by
  have hsame := natAbs_sub_roundBits_le n.natAbs hk
  -- A number of the other sign is farther away than zero.
  have hzero := natAbs_sub_roundBits_le n.natAbs (fewBits_of_lt (two_pow_pos 53))
  rcases roundWhole_cases n with ⟨hpos, h⟩ | ⟨hneg, h⟩
  · rw [h]
    omega
  · rw [h]
    omega

/-- Rounding leaves exactly the numbers with few bits alone. -/
theorem roundWhole_eq_iff {n : Int} : roundWhole n = n ↔ FewBits n.natAbs := by
  constructor
  · intro h
    have hfew := fewBits_natAbs_roundWhole n
    rwa [h] at hfew
  · intro hfew
    have hnearest := natAbs_sub_roundWhole_le n hfew
    omega

theorem whole?_ofRatio {n : Int} (h : n.natAbs < overflow) :
    (ofRatio (decide (n < 0)) n.natAbs 1).whole? = some (roundWhole n) := by
  rcases Nat.eq_zero_or_pos n.natAbs with hzero | hpos
  · rw [Int.natAbs_eq_zero] at hzero
    subst hzero
    decide +kernel
  · exact whole?_ofRatio_one _ hpos h

end Binary64

end ScreenDesign
