import Mathlib.Data.List.Basic

/-!
# Numbers at the end of names

A name that ends in anything but a digit is a stem.  A stem with a decimal number behind it can be
taken apart again in only one way (`Stem.append_repr_inj`), and is itself no stem
(`Stem.ne_append_repr`).
-/

namespace ScreenDesign

/-- A name that does not end in a digit. -/
def Stem (s : String) : Prop := ∀ c ∈ s.toList.getLast?, c.isDigit = false

/-- What stands behind the last character that is no digit is determined by the whole. -/
theorem append_digits_inj {as bs ds es : List Char} (ha : ∀ c ∈ as.getLast?, c.isDigit = false)
    (hb : ∀ c ∈ bs.getLast?, c.isDigit = false) (hd : ∀ c ∈ ds, c.isDigit = true)
    (he : ∀ c ∈ es, c.isDigit = true) (h : as ++ ds = bs ++ es) : as = bs ∧ ds = es := by
  -- The longer beginning would end in one of the digits of the other side.
  have hlonger {cs xs ys : List Char} (hcs : ∀ c ∈ (cs ++ xs).getLast?, c.isDigit = false)
      (hxs : ∀ c ∈ xs ++ ys, c.isDigit = true) : xs = [] := by
    rcases List.eq_nil_or_concat xs with rfl | ⟨xs, x, rfl⟩
    · rfl
    · have hlast : x.isDigit = false := hcs x (by simp)
      have hdigit : x.isDigit = true := hxs x (by simp)
      rw [hdigit] at hlast
      cases hlast
  rcases List.append_eq_append_iff.mp h with ⟨xs, rfl, rfl⟩ | ⟨xs, rfl, rfl⟩
  · obtain rfl := hlonger hb hd
    exact ⟨(List.append_nil as).symm, rfl⟩
  · obtain rfl := hlonger ha he
    exact ⟨List.append_nil bs, rfl⟩

theorem isDigit_of_mem_repr {n : Nat} {c : Char} (h : c ∈ n.repr.toList) : c.isDigit = true := by
  rw [Nat.toList_repr] at h
  exact Nat.isDigit_of_mem_toDigits (by decide) (by decide) h

theorem repr_inj {m n : Nat} (h : m.repr = n.repr) : m = n := by
  have hdigits : Nat.toDigits 10 m = Nat.toDigits 10 n := by
    rw [← Nat.toList_repr, h, Nat.toList_repr]
  rw [← Nat.ofDigitChars_ten_toDigits (n := m), hdigits, Nat.ofDigitChars_ten_toDigits]

namespace Stem

variable {s t : String}

theorem append {s : String} (ht : Stem t) (hne : t ≠ "") : Stem (s ++ t) := by
  have hlast : t.toList ≠ [] := fun hnil => hne (String.toList_eq_nil_iff.mp hnil)
  rw [Stem, String.toList_append, List.getLast?_append_of_ne_nil _ hlast]
  exact ht

/-- A stem and the number behind it are determined by the two together. -/
theorem append_repr_inj (hs : Stem s) (ht : Stem t) {m n : Nat} (h : s ++ m.repr = t ++ n.repr) :
    s = t ∧ m = n := by
  have hchars := congrArg String.toList h
  rw [String.toList_append, String.toList_append] at hchars
  obtain ⟨hstem, hdigits⟩ := append_digits_inj hs ht (fun _ => isDigit_of_mem_repr)
    (fun _ => isDigit_of_mem_repr) hchars
  exact ⟨String.toList_inj.mp hstem, repr_inj (String.toList_inj.mp hdigits)⟩

/-- A stem is no other one with a number behind it. -/
theorem ne_append_repr (hs : Stem s) (ht : Stem t) (n : Nat) : s ≠ t ++ n.repr := by
  intro h
  have hchars := congrArg String.toList h
  rw [String.toList_append, ← List.append_nil s.toList] at hchars
  have hnone : ∀ c ∈ ([] : List Char), c.isDigit = true := fun _ hc => absurd hc List.not_mem_nil
  obtain ⟨-, hdigits⟩ := append_digits_inj hs ht hnone (fun _ => isDigit_of_mem_repr) hchars
  rw [Nat.toList_repr] at hdigits
  exact Nat.toDigits_ne_nil hdigits.symm

end Stem

end ScreenDesign
