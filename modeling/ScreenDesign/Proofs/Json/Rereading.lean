import Mathlib.Data.List.TakeWhile
import ScreenDesign.Json.Reader
import ScreenDesign.Json.Writer
import ScreenDesign.Proofs.Number.Rounding

/-!
# Reading back texts and numbers

What the writer makes of a text or a number, the reader takes for that text or number and
leaves what follows alone (`readText_escaped`, `readNumber_int`, `readNumber_finite`).

A text ends at its closing quote.  A number ends where the next character cannot continue it,
and whatever stands behind a value in a written text cannot: `Ends` says so.  A binary64 number
is laid out with a point or with an exponent.  Either way the reader finds a decimal of the
value that was written (`readNumber_text`), and that decimal reads back.
-/

namespace ScreenDesign

/-- Whether the text of a number gives it back. -/
def Number.isKept : Number → Bool
  | .int n => (Nat.toDigits 10 n.natAbs).length ≤ Numeral.maxDigits
  | .float x => x ≠ .nan

namespace Json

/-! ## Texts -/

/-- A control character is written with four digits, the first two of them zeros. -/
theorem codeUnit?_hexDigits : ∀ n < 32,
    hexDigits 4 n = ['0', '0', (n / 16).digitChar, (n % 16).digitChar] ∧
      codeUnit? '0' '0' (n / 16).digitChar (n % 16).digitChar = some n := by
  decide

/-- A character is escaped by a letter, escaped by its number, or stands for itself. -/
theorem escaped_cases (c : Char) :
    (∃ x, x ≠ 'u' ∧ unescape? x = some c ∧ escaped c = ['\\', x]) ∨
      (c.toNat < 0x20 ∧ escaped c = '\\' :: 'u' :: hexDigits 4 c.toNat) ∨
      (c ≠ '\x22' ∧ c ≠ '\\' ∧ ¬c.toNat < 0x20 ∧ escaped c = [c]) := by
  have hletter (x y : Char) (h : x ≠ 'u' ∧ unescape? x = some y) (hc : c = y) :
      ∃ z, z ≠ 'u' ∧ unescape? z = some c ∧ ['\\', x] = ['\\', z] :=
    ⟨x, h.1, hc ▸ h.2, rfl⟩
  unfold escaped
  split
  case isTrue hc => exact .inl (hletter '\x22' _ (by decide) hc)
  case isFalse hquote =>
  split
  case isTrue hc => exact .inl (hletter '\\' _ (by decide) hc)
  case isFalse hbackslash =>
  split
  case isTrue hc => exact .inl (hletter 'n' _ (by decide) hc)
  split
  case isTrue hc => exact .inl (hletter 'r' _ (by decide) hc)
  split
  case isTrue hc => exact .inl (hletter 't' _ (by decide) hc)
  split
  case isTrue hc => exact .inl (hletter 'b' _ (by decide) hc)
  split
  case isTrue hc => exact .inl (hletter 'f' _ (by decide) hc)
  split
  case isTrue hcontrol => exact .inr (.inl ⟨hcontrol, rfl⟩)
  case isFalse hcontrol => exact .inr (.inr ⟨hquote, hbackslash, hcontrol, rfl⟩)

/-- An escaped character is read as one character. -/
theorem textBody_escaped (start : List Char) (fuel : Nat) (c f : Char) (rest : List Char) :
    textBody start (fuel + 1) (escaped c ++ f :: rest) =
      (textBody start fuel (f :: rest)).map fun (xs, after) => (c :: xs, after) := by
  obtain ⟨x, hx, hc, heq⟩ | ⟨hcontrol, heq⟩ | ⟨hquote, hbackslash, hcontrol, heq⟩ := escaped_cases c
  · simp [heq, textBody, hx, hc]
  · obtain ⟨hdigits, hunit⟩ := codeUnit?_hexDigits c.toNat hcontrol
    have hsurrogate : ¬(0xD800 ≤ c.toNat ∧ c.toNat ≤ 0xDBFF) := by omega
    have hchar : ofCodeUnit c.toNat = c := by
      rw [ofCodeUnit, if_neg (by omega), Char.ofNat_toNat]
    simp [heq, hdigits, textBody, hunit, hsurrogate, hchar]
  · simp [heq, textBody, hquote, hbackslash, hcontrol]

theorem length_le_flatMap_escaped (cs : List Char) : cs.length ≤ (cs.flatMap escaped).length := by
  have hone (c : Char) : 1 ≤ (escaped c).length := by
    obtain ⟨x, -, -, heq⟩ | ⟨-, heq⟩ | ⟨-, -, -, heq⟩ := escaped_cases c
    · simp [heq]
    · simp [heq]
    · simp [heq]
  induction cs with
  | nil => exact Nat.zero_le _
  | cons c cs ih =>
      have := hone c
      rw [List.flatMap_cons, List.length_append, List.length_cons]
      omega

/-- The escaped characters of a text are read up to the closing quote. -/
theorem textBody_flatMap (start rest : List Char) {cs : List Char} {fuel : Nat}
    (h : cs.length < fuel) :
    textBody start fuel (cs.flatMap escaped ++ '\x22' :: rest) = .ok (cs, rest) := by
  induction cs generalizing fuel with
  | nil =>
      obtain ⟨fuel, rfl⟩ := Nat.exists_eq_add_one_of_ne_zero (Nat.ne_of_gt h)
      rfl
  | cons c cs ih =>
      rw [List.length_cons] at h
      obtain ⟨fuel, rfl⟩ := Nat.exists_eq_add_one_of_ne_zero (Nat.ne_of_gt (Nat.zero_lt_of_lt h))
      obtain ⟨f, behind, hbehind⟩ : ∃ f behind,
          cs.flatMap escaped ++ '\x22' :: rest = f :: behind :=
        List.exists_cons_of_ne_nil (List.append_ne_nil_of_right_ne_nil _ (List.cons_ne_nil _ _))
      have hcs := @ih fuel (by omega)
      rw [hbehind] at hcs
      rw [List.flatMap_cons, List.append_assoc, hbehind, textBody_escaped, hcs]
      rfl

/-- A text is read back. -/
theorem readText_escaped (start rest : List Char) (s : String) :
    readText start (s.toList.flatMap escaped ++ '\x22' :: rest) = .ok (s, rest) := by
  have hlength := length_le_flatMap_escaped s.toList
  have hfuel : s.toList.length < (s.toList.flatMap escaped ++ '\x22' :: rest).length + 1 := by
    rw [List.length_append]
    omega
  rw [readText, textBody_flatMap start rest hfuel]
  exact congrArg Except.ok (Prod.ext (String.ofList_toList) rfl)

/-! ## Where a value ends -/

/-- The characters that can stand right behind a value. -/
def enders : List Char := [',', ']', '\x7d', ' ', '\t', '\n', '\r']

/-- Nothing follows, or a character that stands behind a value. -/
def Ends (rest : List Char) : Prop := ∀ c ∈ rest.head?, c ∈ enders

theorem ends_nil : Ends [] := fun _ h => absurd h (Option.not_mem_none _)

theorem ends_cons {c : Char} {rest : List Char} (h : c ∈ enders) : Ends (c :: rest) :=
  fun _ hc => Option.mem_some.mp hc ▸ h

/-- What follows cannot continue digits. -/
def Halts (rest : List Char) : Prop := ∀ c ∈ rest.head?, c.isDigit = false

theorem halts_cons {c : Char} {rest : List Char} (h : c.isDigit = false) : Halts (c :: rest) :=
  fun _ hc => Option.mem_some.mp hc ▸ h

theorem Ends.halts {rest : List Char} (h : Ends rest) : Halts rest := by
  have hall : ∀ c ∈ enders, c.isDigit = false := by simp [enders]
  exact fun c hc => hall c (h c hc)

/-! ## Digits -/

/-- All characters are digits. -/
abbrev AllDigits (ds : List Char) : Prop := ∀ c ∈ ds, c.isDigit = true

theorem allDigits_toDigits (n : Nat) : AllDigits (Nat.toDigits 10 n) :=
  fun _ hc => Nat.isDigit_of_mem_toDigits (by decide) (by decide) hc

theorem allDigits_zeros (k : Nat) : AllDigits (List.replicate k '0') :=
  fun _ hc => List.eq_of_mem_replicate hc ▸ rfl

theorem AllDigits.append {ds es : List Char} (hd : AllDigits ds) (he : AllDigits es) :
    AllDigits (ds ++ es) :=
  fun c hc => (List.mem_append.mp hc).elim (hd c) (he c)

/-- Digits are read as far as they go. -/
theorem digits_append {ds rest : List Char} (hd : AllDigits ds) (hrest : Halts rest) :
    Numeral.digits (ds ++ rest) = (ds, rest) := by
  have hnone : rest.takeWhile Char.isDigit = [] ∧ rest.dropWhile Char.isDigit = rest := by
    cases rest with
    | nil => exact ⟨rfl, rfl⟩
    | cons c rest => simp [hrest c rfl]
  rw [Numeral.digits, List.takeWhile_append_of_pos hd, List.dropWhile_append_of_pos hd, hnone.1,
    hnone.2, List.append_nil]

/-- A number is written without a zero in front. -/
theorem head?_toDigits {n : Nat} (h : 0 < n) : (Nat.toDigits 10 n).head? ≠ some '0' := by
  induction n using Nat.strong_induction_on with
  | _ n ih =>
      rcases Nat.lt_or_ge n 10 with hlt | hge
      · have hall : ∀ n < 10, 0 < n → some n.digitChar ≠ some '0' := by decide
        rw [Nat.toDigits_of_lt_base hlt]
        exact hall n hlt h
      · rw [Nat.toDigits_of_base_le (by decide) hge,
          List.head?_append_of_ne_nil _ Nat.toDigits_ne_nil]
        exact ih (n / 10) (by omega) (by omega)

theorem ofDigits_toDigits (n : Nat) : Numeral.ofDigits (Nat.toDigits 10 n) = n :=
  Nat.ofDigitChars_ten_toDigits

/-- Zeros in front of a number do not count. -/
theorem ofDigits_zeros_append (k : Nat) (ds : List Char) :
    Numeral.ofDigits (List.replicate k '0' ++ ds) = Numeral.ofDigits ds := by
  rw [Numeral.ofDigits, Nat.ofDigitChars_append, Nat.ofDigitChars_replicate_zero, Nat.mul_zero]
  rfl

theorem ofDigits_append_zeros (ds : List Char) (k : Nat) :
    Numeral.ofDigits (ds ++ List.replicate k '0') = Numeral.ofDigits ds * 10 ^ k := by
  rw [Numeral.ofDigits, Nat.ofDigitChars_append, Nat.ofDigitChars_replicate_zero, Nat.mul_comm]
  rfl

/-! ## The parts of a number -/

/-- Digits that can stand before a point: at least one, and no zero before others. -/
structure Whole (ds : List Char) : Prop where
  digits : AllDigits ds
  nonempty : ds ≠ []
  lead : ds.head? = some '0' → ds = ['0']

theorem whole_zero : Whole ['0'] :=
  ⟨List.forall_mem_singleton.mpr rfl, List.cons_ne_nil _ _, fun _ => rfl⟩

theorem Whole.of_head {ds : List Char} (hd : AllDigits ds) (hne : ds ≠ [])
    (hhead : ds.head? ≠ some '0') : Whole ds :=
  ⟨hd, hne, fun h => absurd h hhead⟩

theorem whole_toDigits (n : Nat) : Whole (Nat.toDigits 10 n) := by
  rcases Nat.eq_zero_or_pos n with rfl | hn
  · exact whole_zero
  · exact .of_head (allDigits_toDigits n) Nat.toDigits_ne_nil (head?_toDigits hn)

/-- A number does not start with a sign. -/
theorem Whole.exists_cons {ds : List Char} (h : Whole ds) (rest : List Char) :
    ∃ c cs, ds ++ rest = c :: cs ∧ c.isDigit = true := by
  obtain ⟨c, cs, rfl⟩ := List.exists_cons_of_ne_nil h.nonempty
  exact ⟨c, cs ++ rest, rfl, h.digits c List.mem_cons_self⟩

theorem wholeDigits_append {ds rest : List Char} (hd : Whole ds) (hrest : Halts rest) :
    wholeDigits (ds ++ rest) = (ds, rest) := by
  obtain ⟨c, cs, rfl⟩ := List.exists_cons_of_ne_nil hd.nonempty
  by_cases hc : c = '0'
  · subst hc
    obtain rfl := (List.cons.inj (hd.lead rfl)).2
    rfl
  · have hzero : wholeDigits (c :: cs ++ rest) = Numeral.digits (c :: cs ++ rest) := by
      unfold wholeDigits
      split
      case h_1 heq => exact absurd (List.cons.inj heq).1 hc
      case h_2 => rfl
    rw [hzero, digits_append hd.digits hrest]

/-- Digits behind a point, if there are any. -/
def pointed (part : List Char) : List Char := if part.isEmpty then [] else '.' :: part

theorem fractionDigits_pointed {part rest : List Char} (hd : AllDigits part) (hrest : Halts rest)
    (hpoint : rest.head? ≠ some '.') : fractionDigits (pointed part ++ rest) = (part, rest) := by
  cases part with
  | nil =>
      cases rest with
      | nil => rfl
      | cons c rest =>
          have hc : c ≠ '.' := fun h => hpoint (congrArg some h)
          simp [pointed, fractionDigits, Numeral.fraction, hc]
  | cons c part =>
      have hfraction : Numeral.fraction (pointed (c :: part) ++ rest) = (c :: part, rest) :=
        digits_append hd hrest
      rw [fractionDigits, hfraction]
      rfl

theorem halts_pointed (part : List Char) {rest : List Char} (hrest : Halts rest) :
    Halts (pointed part ++ rest) := by
  cases part with
  | nil => exact hrest
  | cons c part => exact halts_cons rfl

/-- An exponent with its letter and its sign. -/
def powered (e : Int) (ds : List Char) : List Char := 'e' :: (if e < 0 then '-' else '+') :: ds

theorem exponentPart_powered {e : Int} {ds rest : List Char} (hd : AllDigits ds) (hne : ds ≠ [])
    (hvalue : Numeral.ofDigits ds = e.natAbs) (hrest : Halts rest) :
    exponentPart (powered e ds ++ rest) = (some e, rest) := by
  have hempty : ds.isEmpty = false := by simpa using hne
  have hdigits := digits_append hd hrest
  rcases Int.lt_or_le e 0 with hneg | hpos
  · have hsigned : Binary64.signed true e.natAbs = e := by
      rw [Binary64.signed, if_pos rfl]
      omega
    simp [powered, exponentPart, hneg, Numeral.sign, hdigits, hempty, hvalue, hsigned]
  · have hsigned : Binary64.signed false e.natAbs = e := by
      rw [Binary64.signed, if_neg Bool.false_ne_true]
      omega
    simp [powered, exponentPart, not_lt.mpr hpos, Numeral.sign, hdigits, hempty, hvalue, hsigned]

/-- Behind a number without an exponent none is read. -/
theorem exponentPart_of_ends {rest : List Char} (h : Ends rest) :
    exponentPart rest = (none, rest) := by
  have hall : ∀ c ∈ enders, ¬(c = 'e' ∨ c = 'E') := by simp [enders]
  cases rest with
  | nil => rfl
  | cons c rest => rw [exponentPart, if_neg (hall c (h c rfl))]

theorem Ends.head?_ne_point {rest : List Char} (h : Ends rest) : rest.head? ≠ some '.' :=
  fun hpoint => absurd (h '.' hpoint) (by decide)

/-! ## Numbers -/

section

variable {negative : Bool} {whole part rest afterPart : List Char} {e : Option Int}

/-- The sign of a number is read apart from its digits. -/
theorem readNumber_withSign (hwhole : Whole whole) (hpart : AllDigits part)
    (hrest : Halts afterPart) (hpoint : afterPart.head? ≠ some '.')
    (hexponent : exponentPart afterPart = (e, rest)) :
    readNumber (Binary64.withSign negative (whole ++ (pointed part ++ afterPart))) =
      if part.isEmpty && e.isNone then
        if Numeral.maxDigits < whole.length then .error (.digits whole.length)
        else .ok (.int (Binary64.signed negative (Numeral.ofDigits whole)),
          pointed part ++ afterPart)
      else
        .ok (.float (Binary64.ofDecimal negative (Numeral.ofDigits (whole ++ part))
          (e.getD 0 - part.length)), rest) := by
  have hdigits := wholeDigits_append hwhole (halts_pointed part hrest)
  have hfraction := fractionDigits_pointed hpart hrest hpoint
  have hempty : whole.isEmpty = false := by simpa using hwhole.nonempty
  obtain ⟨c, cs, hcons, hc⟩ := hwhole.exists_cons (pointed part ++ afterPart)
  cases negative with
  | true =>
      simp only [Binary64.withSign, if_pos, readNumber, hdigits, hfraction, hexponent, hempty,
        Bool.false_eq_true, if_false]
  | false =>
      have hsign : c ≠ '-' := by
        rintro rfl
        cases hc
      rw [hcons] at hdigits
      simp [Binary64.withSign, readNumber, hcons, hsign, hdigits, hfraction, hexponent, hempty]

/-- A whole number is read back. -/
theorem readNumber_digits (negative : Bool) {n : Nat}
    (hmany : (Nat.toDigits 10 n).length ≤ Numeral.maxDigits) (hrest : Ends rest) :
    readNumber (Binary64.withSign negative (Nat.toDigits 10 n ++ rest)) =
      .ok (.int (Binary64.signed negative n), rest) := by
  have hread := @readNumber_withSign negative _ [] rest rest none (whole_toDigits n)
    (fun _ hc => absurd hc List.not_mem_nil) hrest.halts hrest.head?_ne_point
    (exponentPart_of_ends hrest)
  simpa [pointed, not_lt.mpr hmany, ofDigits_toDigits] using hread

/-- Digits with a point are read as a decimal. -/
theorem readNumber_pointed (negative : Bool) (hwhole : Whole whole) (hpart : AllDigits part)
    (hne : part ≠ []) (hrest : Ends rest) :
    readNumber (Binary64.withSign negative (whole ++ '.' :: (part ++ rest))) =
      .ok (.float (Binary64.ofDecimal negative (Numeral.ofDigits (whole ++ part))
        (-part.length)), rest) := by
  have hread := @readNumber_withSign negative _ part rest rest none hwhole hpart hrest.halts
    hrest.head?_ne_point (exponentPart_of_ends hrest)
  simpa [pointed, hne] using hread

end

/-! ## Decimals -/

/-- The digits of a positive number, without a zero in front. -/
structure Written (n : Nat) (ds : List Char) : Prop where
  digits : AllDigits ds
  nonempty : ds ≠ []
  lead : ds.head? ≠ some '0'
  value : Numeral.ofDigits ds = n

theorem written_toDigits {n : Nat} (h : n ≠ 0) : Written n (Nat.toDigits 10 n) :=
  ⟨allDigits_toDigits n, Nat.toDigits_ne_nil, head?_toDigits (Nat.pos_of_ne_zero h),
    ofDigits_toDigits n⟩

section

variable {n : Nat} {ds rest : List Char}

/-- All digits stand behind the point, and zeros before them. -/
theorem readNumber_behind (negative : Bool) (h : Written n ds) (k : Nat) (hrest : Ends rest) :
    readNumber (Binary64.withSign negative
        ('0' :: '.' :: (List.replicate k '0' ++ ds) ++ rest)) =
      .ok (.float (Binary64.ofDecimal negative n (-(k + ds.length : Nat))), rest) := by
  have hpart : AllDigits (List.replicate k '0' ++ ds) := (allDigits_zeros k).append h.digits
  have hne : List.replicate k '0' ++ ds ≠ [] := List.append_ne_nil_of_right_ne_nil _ h.nonempty
  have hvalue : Numeral.ofDigits (['0'] ++ (List.replicate k '0' ++ ds)) = n := by
    rw [← h.value, ← ofDigits_zeros_append k ds, ← ofDigits_zeros_append 1]
    rfl
  have hread := readNumber_pointed negative whole_zero hpart hne hrest
  rw [hvalue, List.length_append, List.length_replicate] at hread
  exact hread

/-- Zeros fill the places up to the point. -/
theorem readNumber_before (negative : Bool) (h : Written n ds) (k : Nat) (hrest : Ends rest) :
    readNumber (Binary64.withSign negative (ds ++ List.replicate k '0' ++ ['.', '0'] ++ rest)) =
      .ok (.float (Binary64.ofDecimal negative n k), rest) := by
  have hne : ds ++ List.replicate k '0' ≠ [] := List.append_ne_nil_of_left_ne_nil h.nonempty _
  have hwhole : Whole (ds ++ List.replicate k '0') := by
    refine .of_head (h.digits.append (allDigits_zeros k)) hne ?_
    rw [List.head?_append_of_ne_nil _ h.nonempty]
    exact h.lead
  have hvalue : Numeral.ofDigits (ds ++ List.replicate k '0' ++ ['0']) = n * 10 ^ (k + 1) := by
    rw [List.append_assoc, ← h.value, ← ofDigits_append_zeros, List.replicate_succ']
  have hexponent : -((['0'].length : Nat) : Int) = (k : Int) - (k + 1 : Nat) := by
    rw [List.length_singleton]
    omega
  have hread := readNumber_pointed negative hwhole whole_zero.digits (List.cons_ne_nil _ _) hrest
  rw [hvalue, hexponent, Binary64.ofDecimal_shift] at hread
  simpa using hread

/-- The point stands between two digits. -/
theorem readNumber_between (negative : Bool) (h : Written n ds) {k : Nat} (hpos : 0 < k)
    (hlt : k < ds.length) (hrest : Ends rest) :
    readNumber (Binary64.withSign negative (ds.take k ++ '.' :: ds.drop k ++ rest)) =
      .ok (.float (Binary64.ofDecimal negative n (-(ds.length - k : Nat))), rest) := by
  have htake : ds.take k ≠ [] := by
    intro hnil
    rcases List.take_eq_nil_iff.mp hnil with hzero | hnil
    · omega
    · exact h.nonempty hnil
  have hdrop : ds.drop k ≠ [] := by
    rw [Ne, List.drop_eq_nil_iff]
    omega
  have hwhole : Whole (ds.take k) := by
    refine .of_head (fun c hc => h.digits c (List.mem_of_mem_take hc)) htake ?_
    rw [List.head?_take, if_neg (Nat.ne_of_gt hpos)]
    exact h.lead
  have hpart : AllDigits (ds.drop k) := fun c hc => h.digits c (List.mem_of_mem_drop hc)
  have hread := readNumber_pointed negative hwhole hpart hdrop hrest
  rw [List.take_append_drop, h.value, List.length_drop] at hread
  simpa using hread

/-- A decimal in positional notation is read back. -/
theorem readNumber_positional (negative : Bool) (h : Written n ds) (e : Int) (hrest : Ends rest) :
    readNumber (Binary64.withSign negative (Decimal.positional ds (ds.length + e) ++ rest)) =
      .ok (.float (Binary64.ofDecimal negative n e), rest) := by
  have hlength := List.length_pos_of_ne_nil h.nonempty
  rw [Decimal.positional]
  split
  case isTrue hpoint =>
    have he : -((-(ds.length + e)).toNat + ds.length : Nat) = e := by omega
    have hread := readNumber_behind negative h (-(ds.length + e)).toNat hrest
    rwa [he] at hread
  split
  case isTrue hpoint =>
    have he : (((ds.length + e).toNat - ds.length : Nat) : Int) = e := by omega
    have hread := readNumber_before negative h ((ds.length + e).toNat - ds.length) hrest
    rwa [he] at hread
  case isFalse hpoint =>
    have he : -((ds.length - (ds.length + e).toNat : Nat) : Int) = e := by omega
    have hread := @readNumber_between n ds rest negative h (ds.length + e).toNat (by omega)
      (by omega) hrest
    rwa [he] at hread

/-- An exponent is written with at least two digits. -/
theorem padded_toDigits (m : Nat) : ∃ es, (if (Nat.toDigits 10 m).length < 2
    then '0' :: Nat.toDigits 10 m else Nat.toDigits 10 m) = es ∧
      AllDigits es ∧ es ≠ [] ∧ Numeral.ofDigits es = m := by
  refine ⟨_, rfl, ?_⟩
  split
  · refine ⟨(allDigits_zeros 1).append (allDigits_toDigits m), List.cons_ne_nil _ _, ?_⟩
    exact (ofDigits_zeros_append 1 _).trans (ofDigits_toDigits m)
  · exact ⟨allDigits_toDigits m, Nat.toDigits_ne_nil, ofDigits_toDigits m⟩

/-- A decimal with an exponent is read back. -/
theorem readNumber_scientific (negative : Bool) (h : Written n ds) (e : Int) (hrest : Ends rest) :
    readNumber (Binary64.withSign negative (Decimal.scientific ds (ds.length + e) ++ rest)) =
      .ok (.float (Binary64.ofDecimal negative n e), rest) := by
  obtain ⟨c, cs, rfl⟩ := List.exists_cons_of_ne_nil h.nonempty
  have hc : Whole [c] := by
    refine .of_head ?_ (List.cons_ne_nil _ _) h.lead
    exact List.forall_mem_singleton.mpr (h.digits c List.mem_cons_self)
  have hcs : AllDigits cs := fun x hx => h.digits x (List.mem_cons_of_mem c hx)
  generalize hp : ((c :: cs).length : Int) + e - 1 = p
  obtain ⟨es, hes, hall, hne, hvalue⟩ := padded_toDigits p.natAbs
  have htext : Decimal.scientific (c :: cs) ((c :: cs).length + e) ++ rest =
      [c] ++ (pointed cs ++ (powered p es ++ rest)) := by
    simp only [Decimal.scientific, hp, hes]
    cases cs with
    | nil => rfl
    | cons x xs => simp [pointed, powered]
  have hexponent : p - (cs.length : Int) = e := by
    rw [List.length_cons] at hp
    omega
  have hread := @readNumber_withSign negative [c] cs rest (powered p es ++ rest) (some p) hc hcs
    (halts_cons rfl) (by simp [powered]) (exponentPart_powered hall hne hvalue hrest.halts)
  rw [htext, hread]
  simp [hexponent, h.value]

end

/-- A decimal is read back, whatever its notation. -/
theorem readNumber_text (negative : Bool) {d : Decimal} {rest : List Char} (hd : d.digits ≠ 0)
    (hrest : Ends rest) :
    readNumber (Binary64.withSign negative (d.text ++ rest)) =
      .ok (.float (Binary64.ofDecimal negative d.digits d.exponent), rest) := by
  rw [Decimal.text]
  split
  · exact readNumber_positional negative (written_toDigits hd) d.exponent hrest
  · exact readNumber_scientific negative (written_toDigits hd) d.exponent hrest

/-! ## Numerals -/

theorem numeral_int (n : Int) :
    numeral (.int n) = Binary64.withSign (decide (n < 0)) (Nat.toDigits 10 n.natAbs) := by
  rw [numeral, decimalText]
  split
  case isTrue h => simp [Binary64.withSign, h]
  case isFalse h => simp [Binary64.withSign, h]

theorem signed_natAbs (n : Int) : Binary64.signed (decide (n < 0)) n.natAbs = n := by
  rw [Binary64.signed]
  split
  case isTrue h =>
    have := of_decide_eq_true h
    omega
  case isFalse h =>
    have := of_decide_eq_false (Bool.eq_false_of_not_eq_true h)
    omega

theorem withSign_append (negative : Bool) (cs rest : List Char) :
    Binary64.withSign negative cs ++ rest = Binary64.withSign negative (cs ++ rest) := by
  cases negative with
  | false => rfl
  | true => rfl

/-- A whole number with few enough digits is read back. -/
theorem readNumber_int {n : Int} {rest : List Char} (h : Number.isKept (.int n) = true)
    (hrest : Ends rest) :
    readNumber (numeral (.int n) ++ rest) = .ok (.int n, rest) := by
  rw [numeral_int, withSign_append, readNumber_digits _ (of_decide_eq_true h) hrest, signed_natAbs]

/-- A finite binary64 number is read back. -/
theorem readNumber_finite (negative : Bool) (rank : Fin Binary64.finiteCount)
    {rest : List Char} (hrest : Ends rest) :
    readNumber (numeral (.float (.finite negative rank)) ++ rest) =
      .ok (.float (.finite negative rank), rest) := by
  have hrank : Binary64.ofRank negative rank.val = .finite negative rank := by
    rw [Binary64.ofRank, dif_pos rank.isLt]
  rw [numeral, Binary64.text, String.toList_ofList, withSign_append, ← hrank]
  split
  case isTrue hzero =>
    have hread := readNumber_pointed negative whole_zero whole_zero.digits whole_zero.nonempty hrest
    rw [hzero]
    exact hread
  case isFalse hpos =>
    have hshortest := Binary64.ofDecimal_shortest negative rank.val
    have hdigits : (Binary64.shortest rank.val).digits ≠ 0 := by
      intro h
      rw [h, Binary64.ofDecimal, if_pos rfl, Binary64.zero, hrank, Binary64.ofRank,
        dif_pos (Nat.zero_lt_of_lt rank.isLt)] at hshortest
      have hsame := (Binary64.finite.inj hshortest).2
      exact hpos (congrArg Fin.val hsame).symm
    rw [readNumber_text negative hdigits hrest, hshortest]

theorem exists_digit_of_wholeDigits {cs : List Char} (h : (wholeDigits cs).1.isEmpty ≠ true) :
    ∃ c ds, cs = c :: ds ∧ c.isDigit = true := by
  cases cs with
  | nil => exact absurd rfl h
  | cons c ds =>
      refine ⟨c, ds, rfl, ?_⟩
      by_contra hc
      have hzero : c ≠ '0' := by
        rintro rfl
        exact hc rfl
      unfold wholeDigits at h
      split at h
      case h_1 heq => exact hzero (List.cons.inj heq).1
      case h_2 => exact h (by rw [Numeral.digits, List.takeWhile_cons_of_neg hc]; rfl)

/-- The digits of a number stand behind its sign. -/
theorem eq_withSign_of_unsigned {cs unsigned : List Char} {negative : Bool}
    (h : (match cs with | '-' :: rest => (true, rest) | _ => (false, cs)) = (negative, unsigned)) :
    cs = Binary64.withSign negative unsigned := by
  split at h
  · cases h
    rfl
  · cases h
    rfl

/-- A number that can be read begins with a digit, perhaps behind a minus sign. -/
theorem exists_digit_of_readNumber {cs : List Char} {x : Number × List Char}
    (h : readNumber cs = .ok x) :
    ∃ negative c ds, cs = Binary64.withSign negative (c :: ds) ∧ c.isDigit = true := by
  have hdigit {negative : Bool} {unsigned whole after : List Char}
      (hsign : cs = Binary64.withSign negative unsigned)
      (hwhole : wholeDigits unsigned = (whole, after)) (hne : ¬whole.isEmpty = true) :
      ∃ negative c ds, cs = Binary64.withSign negative (c :: ds) ∧ c.isDigit = true := by
    have hdigits : (wholeDigits unsigned).1.isEmpty ≠ true := by rwa [hwhole]
    obtain ⟨c, ds, rfl, hc⟩ := exists_digit_of_wholeDigits hdigits
    exact ⟨negative, c, ds, hsign, hc⟩
  revert h
  fun_cases readNumber cs with
  | case1 => exact nofun
  | case2 => exact nofun
  | case3 negative unsigned hsign whole afterWhole hwhole part afterPart hpart e rest hrest hne =>
      exact fun _ => hdigit (eq_withSign_of_unsigned hsign) hwhole hne
  | case4 negative unsigned hsign whole afterWhole hwhole part afterPart hpart e rest hrest hne =>
      exact fun _ => hdigit (eq_withSign_of_unsigned hsign) hwhole hne

end Json

end ScreenDesign
