import ScreenDesign.Dart.Literal

/-!
# The range of binary64 numbers

A whole number has a nearest binary64 number exactly if its magnitude is below
`2 ^ 1024 - 2 ^ 970` (`ofInt?_isSome_iff`).  That bound lies half a unit above the
largest finite magnitude, and a half goes to the even significand, which is that of
infinity.

A finite number has one digit after the point in a program
(`isOnePlace_onePlace`).
-/

namespace ScreenDesign

/-! ## Rounding -/

/-- A quotient is rounded to at most an odd number if it lies below the half above.  The
half itself goes to the even number. -/
theorem divEven_le_iff_of_odd {num den m : Nat} (hden : 0 < den) (hm : m % 2 = 1) :
    divEven num den ≤ m ↔ 2 * num < (2 * m + 1) * den := by
  have hsplit := Nat.div_add_mod num den
  have hrest := Nat.mod_lt num hden
  have hlow := div_le_divEven num den
  have hhigh := divEven_le num den
  have hbound : (2 * m + 1) * den = 2 * (den * m) + den := by
    rw [Nat.add_mul, Nat.one_mul, Nat.mul_assoc, Nat.mul_comm m den]
  rcases Nat.lt_trichotomy (num / den) m with hlt | heq | hgt
  · have hmul : den * (num / den) + den ≤ den * m := Nat.mul_le_mul_left den hlt
    omega
  · rw [heq] at hsplit
    simp only [divEven, heq]
    split
    · omega
    split
    · omega
    · omega
  · have hmul : den * m + den ≤ den * (num / den) := Nat.mul_le_mul_left den hgt
    omega

namespace Binary64

/-- Half the unit in which numbers of some bits are counted. -/
def halfUnit (bits : Nat) : Nat := Nat.pow 2 (bits - 54)

/-- The least magnitude that is too large: half a unit above the largest finite one. -/
def overflow : Nat := Nat.pow 2 1024 - halfUnit 1024

theorem isFinite_ofRank {negative : Bool} {rank : Nat} :
    (ofRank negative rank).isFinite = true ↔ rank < finiteCount := by
  rw [ofRank]
  split
  · exact ⟨fun _ => ‹_›, fun _ => rfl⟩
  · exact ⟨nofun, fun h => absurd h ‹_›⟩

theorem two_pow_pos (n : Nat) : 0 < Nat.pow 2 n := Nat.two_pow_pos n

theorem two_pow_split {a b c : Nat} (h : a + b = c) :
    Nat.pow 2 c = Nat.pow 2 a * Nat.pow 2 b := by
  subst h
  exact Nat.pow_add 2 a b

theorem halfUnit_pos (bits : Nat) : 0 < halfUnit bits := two_pow_pos _

/-- A large power of two in half units. -/
theorem two_pow_eq_halfUnits {a bits c : Nat} (h : a + (bits - 54) = c) :
    Nat.pow 2 c = Nat.pow 2 a * halfUnit bits := two_pow_split h

section

variable {num : Nat} (h : 0 < num)

include h

/-- A positive whole number in units that give it some bits more than one. -/
theorem inUnits_bounds {bits n d : Nat}
    (hunits : inUnits num 1 ((num.log2 : Int) - bits) = (n, d)) :
    0 < d ∧ Nat.pow 2 bits ≤ n / d ∧ n / d < 2 * Nat.pow 2 bits := by
  have hlow : Nat.pow 2 num.log2 ≤ num := Nat.log2_self_le (Nat.ne_of_gt h)
  have hhigh : num < 2 * Nat.pow 2 num.log2 := by
    have hsucc : num < Nat.pow 2 (num.log2 + 1) := Nat.lt_log2_self
    rwa [two_pow_split (Nat.add_comm 1 _)] at hsucc
  generalize num.log2 = k at *
  rw [inUnits] at hunits
  split at hunits
  · obtain ⟨rfl, rfl⟩ := Prod.mk.inj hunits
    have hk : Nat.pow 2 k = Nat.pow 2 bits * Nat.pow 2 ((k : Int) - bits).toNat :=
      two_pow_split (by omega)
    have hpos := two_pow_pos ((k : Int) - bits).toNat
    rw [Nat.one_mul]
    generalize Nat.pow 2 ((k : Int) - bits).toNat = unit at *
    refine ⟨hpos, (Nat.le_div_iff_mul_le hpos).mpr ?_, (Nat.div_lt_iff_lt_mul hpos).mpr ?_⟩
    · rwa [← hk]
    · rwa [Nat.mul_assoc, ← hk]
  · obtain ⟨rfl, rfl⟩ := Prod.mk.inj hunits
    have hk : Nat.pow 2 bits = Nat.pow 2 k * Nat.pow 2 (-((k : Int) - bits)).toNat :=
      two_pow_split (by omega)
    have hpos := two_pow_pos (-((k : Int) - bits)).toNat
    rw [Nat.div_one, hk, ← Nat.mul_assoc]
    generalize Nat.pow 2 (-((k : Int) - bits)).toNat = scale at *
    exact ⟨Nat.one_pos, Nat.mul_le_mul_right scale hlow, Nat.mul_lt_mul_of_pos_right hhigh hpos⟩

/-- A positive whole number is counted in the units that give it fifty-three bits. -/
theorem unitExponent_one : unitExponent num 1 = (num.log2 : Int) - (52 : Nat) := by
  have hlog : Nat.log2 1 = 0 := by decide
  have hlow : max ((num.log2 : Int) - (Nat.log2 1 : Nat) - 53) (-1074) =
      (num.log2 : Int) - (53 : Nat) := by
    omega
  rw [unitExponent, hlow]
  rcases hunits : inUnits num 1 ((num.log2 : Int) - (53 : Nat)) with ⟨n, d⟩
  obtain ⟨-, hbits, -⟩ := inUnits_bounds h hunits
  simp only
  rw [if_neg (Nat.not_lt.mpr hbits)]
  omega

omit h in
/-- A whole number of many bits is counted in powers of two. -/
theorem inUnits_of_le_log2 {bits : Nat} (hbits : bits ≤ num.log2) :
    inUnits num 1 ((num.log2 : Int) - bits) = (num, Nat.pow 2 (num.log2 - bits)) := by
  rw [inUnits, if_pos (by omega), Nat.one_mul, ← Int.ofNat_sub hbits, Int.toNat_natCast]

/-- A positive whole number is finite as a binary64 number if it is not too large. -/
theorem isFinite_ofRatio_one (negative : Bool) :
    (ofRatio negative num 1).isFinite = true ↔ num < overflow := by
  have hlarge := @two_pow_eq_halfUnits 54 1024 1024 rfl
  rw [ofRatio, if_neg (Nat.ne_of_gt h), unitExponent_one h]
  rcases hunits : inUnits num 1 ((num.log2 : Int) - (52 : Nat)) with ⟨n, d⟩
  obtain ⟨hd, hlow, hhigh⟩ := inUnits_bounds h hunits
  have hfloor := div_le_divEven n d
  have hceil := divEven_le n d
  have hrank : ((num.log2 : Int) - (52 : Nat) + 1074).toNat = num.log2 + 1022 := by omega
  simp only [hunits, isFinite_ofRank, finiteCount, overflow, hrank]
  -- Only a number of 1024 bits can go either way.
  rcases Nat.lt_trichotomy num.log2 1023 with hlt | heq | hgt
  · have hnum := (@Nat.log2_lt num 1023 (Nat.ne_of_gt h)).mp hlt
    have hhalf := @two_pow_eq_halfUnits 53 1024 1023 rfl
    have hpos := halfUnit_pos 1024
    simp only [Nat.pow_eq] at *
    constructor
    · intro _
      omega
    · intro _
      omega
  · rw [inUnits_of_le_log2 (by omega), heq, Prod.mk.injEq] at hunits
    obtain ⟨rfl, hunit⟩ := hunits
    have hsplit := @two_pow_eq_halfUnits 1 1024 (1023 - 52) rfl
    rw [hsplit] at hunit
    have hodd := @divEven_le_iff_of_odd num d (Nat.pow 2 53 - 1) hd (by decide)
    simp only [Nat.pow_eq] at *
    constructor
    · intro hq
      have := hodd.mp (by omega)
      omega
    · intro hnum
      have := hodd.mpr (by omega)
      omega
  · have hnum := (@Nat.le_log2 num 1024 (Nat.ne_of_gt h)).mp hgt
    simp only [Nat.pow_eq] at *
    constructor
    · intro _
      omega
    · intro _
      omega

end

/-! ## Whole numbers -/

theorem lt_overflow {n : Nat} (h : n < Nat.pow 2 53) : n < overflow := by
  have hlarge := @two_pow_eq_halfUnits 54 1024 1024 rfl
  have hpos := halfUnit_pos 1024
  rw [overflow]
  simp only [Nat.pow_eq] at *
  omega

theorem ofRank_ne_nan (negative : Bool) (rank : Nat) : ofRank negative rank ≠ .nan := by
  rw [ofRank]
  split
  · nofun
  · nofun

theorem ofRatio_ne_nan (negative : Bool) (num den : Nat) : ofRatio negative num den ≠ .nan := by
  rw [ofRatio]
  split
  · exact ofRank_ne_nan _ _
  · exact ofRank_ne_nan _ _

/-- The finite number nearest to a whole number. -/
theorem ofInt?_eq_some_iff {n : Int} {x : Binary64} :
    ofInt? n = some x ↔ ofRatio (decide (n < 0)) n.natAbs 1 = x ∧ x.isFinite = true := by
  have hnan := ofRatio_ne_nan (decide (n < 0)) n.natAbs 1
  rw [ofInt?]
  cases hx : ofRatio (decide (n < 0)) n.natAbs 1 with
  | finite negative rank =>
      refine ⟨fun h => ?_, fun h => congrArg some h.1⟩
      obtain rfl := Option.some.inj h
      exact ⟨rfl, rfl⟩
  | infinite negative => exact ⟨nofun, fun ⟨h, hfinite⟩ => by rw [← h] at hfinite; cases hfinite⟩
  | nan => exact absurd hx hnan

/-- A whole number has a nearest number exactly if it is not too large. -/
theorem ofInt?_isSome_iff {n : Int} : (∃ x, ofInt? n = some x) ↔ n.natAbs < overflow := by
  have hfinite : (∃ x, ofInt? n = some x) ↔
      (ofRatio (decide (n < 0)) n.natAbs 1).isFinite = true := by
    simp only [ofInt?_eq_some_iff]
    exact ⟨fun ⟨x, hx, h⟩ => hx ▸ h, fun h => ⟨_, rfl, h⟩⟩
  rw [hfinite]
  rcases Nat.eq_zero_or_pos n.natAbs with hzero | hpos
  · rw [hzero]
    exact ⟨fun _ => lt_overflow (two_pow_pos 53), fun _ => rfl⟩
  · exact isFinite_ofRatio_one hpos _

/-! ## One place -/

/-- Digits, a point and one more digit, perhaps behind a minus sign. -/
def IsOnePlace (s : String) : Prop :=
  ∃ negative whole tenth, s.toList = withSign negative (whole ++ ['.', tenth]) ∧ whole ≠ [] ∧
    (∀ c ∈ whole, c.isDigit = true) ∧ tenth.isDigit = true

theorem isOnePlace_onePlace {x : Binary64} (h : x.isFinite = true) : IsOnePlace x.onePlace := by
  cases x with
  | finite negative rank =>
      rw [onePlace, IsOnePlace, String.toList_ofList]
      generalize divEven (10 * (ratio rank.val).1) (ratio rank.val).2 = tenths
      have hlast : tenths % 10 < 10 := Nat.mod_lt _ (by decide)
      refine ⟨negative, Nat.toDigits 10 (tenths / 10), (tenths % 10).digitChar, ?_,
        Nat.toDigits_ne_nil, fun c hc => Nat.isDigit_of_mem_toDigits (by decide) (by decide) hc, ?_⟩
      · rw [Nat.toDigits_of_lt_base hlast]
      · rw [Nat.isDigit_digitChar]
        exact decide_eq_true hlast
  | infinite negative => cases h
  | nan => cases h

end Binary64

/-! ## Numbers of programs -/

namespace Dart

variable {n : Number} {x : Binary64}

/-- Every number has a Dart number, except for whole numbers that are too large. -/
theorem exists_double_iff :
    (∃ x, double n = .ok x) ↔ ∀ i, n = .int i → i.natAbs < Binary64.overflow := by
  cases n with
  | int i =>
      have hrange : (∃ x, double (.int i) = .ok x) ↔ i.natAbs < Binary64.overflow := by
        rw [← Binary64.ofInt?_isSome_iff, double, Number.binary64?]
        cases Binary64.ofInt? i with
        | some x => exact ⟨fun _ => ⟨x, rfl⟩, fun _ => ⟨x, rfl⟩⟩
        | none => exact ⟨nofun, nofun⟩
      rw [hrange]
      exact ⟨fun h j hj => Number.int.inj hj ▸ h, fun h => h i rfl⟩
  | float x => exact ⟨fun _ => nofun, fun _ => ⟨x, rfl⟩⟩

theorem double_eq_error {f : Failure} (h : double n = .error f) : f = .tooLarge := by
  rw [double] at h
  cases hn : n.binary64? with
  | some x => rw [hn] at h; cases h
  | none => rw [hn] at h; cases h; rfl

/-- The Dart number of a finite number is finite. -/
theorem isFinite_of_double (h : double n = .ok x) (hn : n.isFinite = true) :
    x.isFinite = true := by
  cases n with
  | int i =>
      rw [double, Number.binary64?] at h
      cases hi : Binary64.ofInt? i with
      | some y =>
          rw [hi] at h
          cases h
          exact (Binary64.ofInt?_eq_some_iff.mp hi).2
      | none => rw [hi] at h; cases h
  | float y =>
      cases h
      exact hn

end Dart

end ScreenDesign
