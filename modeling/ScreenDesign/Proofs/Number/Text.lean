import ScreenDesign.Json.Literal

/-!
# The characters of number texts

However a number is written, its text has digits, signs, a point and a few letters in
it and nothing else (`Number.isNumeric_of_mem_text`), and it is not empty
(`Number.text_ne_empty`).
-/

namespace ScreenDesign

/-- A character of number texts: a digit, a sign, the point, or a letter of the exponent
and of the names of the data that are no finite numbers. -/
def isNumeric (c : Char) : Bool := c.isDigit || "+-.aefint".toList.contains c

theorem isNumeric_of_isDigit {c : Char} (h : c.isDigit = true) : isNumeric c = true := by
  rw [isNumeric, h, Bool.true_or]

theorem all_isNumeric_toDigits (n : Nat) : (Nat.toDigits 10 n).all isNumeric = true :=
  List.all_eq_true.mpr fun _ hc =>
    isNumeric_of_isDigit (Nat.isDigit_of_mem_toDigits (by decide) (by decide) hc)

theorem all_isNumeric_take {cs : List Char} (n : Nat) (h : cs.all isNumeric = true) :
    (cs.take n).all isNumeric = true :=
  List.all_eq_true.mpr fun c hc => List.all_eq_true.mp h c (List.mem_of_mem_take hc)

theorem all_isNumeric_drop {cs : List Char} (n : Nat) (h : cs.all isNumeric = true) :
    (cs.drop n).all isNumeric = true :=
  List.all_eq_true.mpr fun c hc => List.all_eq_true.mp h c (List.mem_of_mem_drop hc)

/-! ## Decimals -/

namespace Decimal

theorem all_isNumeric_positional {digits : List Char} (point : Int)
    (h : digits.all isNumeric = true) : (positional digits point).all isNumeric = true := by
  rw [positional]
  split
  · have hdot : isNumeric '0' = true ∧ isNumeric '.' = true := ⟨rfl, rfl⟩
    simp [h, hdot]
  split
  · have hdot : isNumeric '.' = true ∧ isNumeric '0' = true := ⟨rfl, rfl⟩
    simp [h, hdot]
  · have hdot : isNumeric '.' = true := rfl
    simp [List.all_append, all_isNumeric_take _ h, all_isNumeric_drop _ h, hdot]

theorem all_isNumeric_scientific {digits : List Char} (point : Int)
    (h : digits.all isNumeric = true) : (scientific digits point).all isNumeric = true := by
  have hletters : isNumeric 'e' = true ∧ isNumeric '-' = true ∧ isNumeric '+' = true ∧
      isNumeric '.' = true ∧ isNumeric '0' = true := ⟨rfl, rfl, rfl, rfl, rfl⟩
  have hfraction : (if digits.length ≤ 1 then [] else '.' :: digits.drop 1).all isNumeric = true := by
    split
    · rfl
    · rw [List.all_cons, all_isNumeric_drop _ h, hletters.2.2.2.1]
      rfl
  have hsign : isNumeric (if point - 1 < 0 then '-' else '+') = true := by
    split
    · rfl
    · rfl
  have hsize : (if (Nat.toDigits 10 (point - 1).natAbs).length < 2
      then '0' :: Nat.toDigits 10 (point - 1).natAbs
      else Nat.toDigits 10 (point - 1).natAbs).all isNumeric = true := by
    split
    · rw [List.all_cons, all_isNumeric_toDigits, hletters.2.2.2.2]
      rfl
    · exact all_isNumeric_toDigits _
  simp only [scientific, List.all_append, List.all_cons, all_isNumeric_take _ h, hfraction, hsign,
    hsize, hletters.1, Bool.and_self]

theorem all_isNumeric_text (d : Decimal) : d.text.all isNumeric = true := by
  rw [text]
  split
  · exact all_isNumeric_positional _ (all_isNumeric_toDigits _)
  · exact all_isNumeric_scientific _ (all_isNumeric_toDigits _)

end Decimal

/-! ## Numbers -/

namespace Binary64

theorem all_isNumeric_withSign (negative : Bool) {cs : List Char} (h : cs.all isNumeric = true) :
    (withSign negative cs).all isNumeric = true := by
  cases negative with
  | false => exact h
  | true => exact Bool.and_eq_true_iff.mpr ⟨rfl, h⟩

theorem all_isNumeric_text (x : Binary64) : (x.text plainNames).toList.all isNumeric = true := by
  cases x with
  | finite negative rank =>
      rw [text, String.toList_ofList]
      refine all_isNumeric_withSign negative ?_
      split
      · rfl
      · exact Decimal.all_isNumeric_text _
  | infinite negative =>
      rw [text, String.toList_ofList]
      exact all_isNumeric_withSign negative (by decide)
  | nan => decide

theorem all_isNumeric_onePlace (x : Binary64) : x.onePlace.toList.all isNumeric = true := by
  cases x with
  | finite negative rank =>
      rw [onePlace, String.toList_ofList]
      refine all_isNumeric_withSign negative ?_
      rw [List.all_append, List.all_cons, all_isNumeric_toDigits, all_isNumeric_toDigits]
      rfl
  | infinite negative => exact all_isNumeric_text (.infinite negative)
  | nan => exact all_isNumeric_text .nan

end Binary64

/-- A whole number is written with digits, perhaps behind a minus. -/
theorem isDigit_of_mem_decimalText {i : Int} {c : Char} (hc : c ∈ (decimalText i).toList) :
    c = '-' ∨ c.isDigit = true := by
  have hrepr {c : Char} (hc : c ∈ i.natAbs.repr.toList) : c.isDigit = true := by
    rw [Nat.toList_repr] at hc
    exact Nat.isDigit_of_mem_toDigits (by decide) (by decide) hc
  rw [decimalText] at hc
  split at hc
  · rw [String.toList_append, List.mem_append] at hc
    exact hc.imp List.mem_singleton.mp hrepr
  · exact .inr (hrepr hc)

theorem all_isNumeric_decimalText (n : Int) : (decimalText n).toList.all isNumeric = true := by
  rw [List.all_eq_true]
  intro c hc
  rcases isDigit_of_mem_decimalText hc with rfl | hdigit
  · rfl
  · exact isNumeric_of_isDigit hdigit

/-- A number is written with the characters of number texts. -/
theorem Number.isNumeric_of_mem_text {n : Number} {c : Char} (hc : c ∈ n.text.toList) :
    isNumeric c = true := by
  cases n with
  | int n => exact List.all_eq_true.mp (all_isNumeric_decimalText n) c hc
  | float x => exact List.all_eq_true.mp x.all_isNumeric_text c hc

/-! ## Texts that are not empty -/

theorem Decimal.text_ne_nil (d : Decimal) : d.text ≠ [] := by
  rw [text]
  split
  · rw [positional]
    split
    · exact List.cons_ne_nil _ _
    split
    · exact List.append_ne_nil_of_right_ne_nil _ (List.cons_ne_nil _ _)
    · exact List.append_ne_nil_of_right_ne_nil _ (List.cons_ne_nil _ _)
  · exact List.append_ne_nil_of_right_ne_nil _ (List.cons_ne_nil _ _)

theorem Binary64.text_ne_empty (x : Binary64) : x.text plainNames ≠ "" := by
  have hsign (negative : Bool) {cs : List Char} (h : cs ≠ []) : withSign negative cs ≠ [] := by
    cases negative with
    | false => exact h
    | true => exact List.cons_ne_nil _ _
  cases x with
  | finite negative rank =>
      rw [text, ← String.ofList_nil, Ne, String.ofList_inj]
      refine hsign negative ?_
      split
      · exact List.cons_ne_nil _ _
      · exact Decimal.text_ne_nil _
  | infinite negative =>
      rw [text, ← String.ofList_nil, Ne, String.ofList_inj]
      exact hsign negative (by decide)
  | nan => decide

theorem Number.text_ne_empty (n : Number) : n.text ≠ "" := by
  cases n with
  | int n =>
      have hdigits : n.natAbs.repr ≠ "" := by
        rw [Ne, ← String.toList_inj, Nat.toList_repr]
        exact Nat.toDigits_ne_nil
      rw [text, decimalText]
      split
      · simp
      · exact hdigits
  | float x => exact x.text_ne_empty

end ScreenDesign
