import ScreenDesign.Proofs.FieldReading
import ScreenDesign.Proofs.Json.Rereading
import ScreenDesign.Proofs.Number.Nearest
import ScreenDesign.Proofs.Spelling

/-!
# Whole numbers given as text

A whole number may be given to a field as a number or as a text that writes it: its decimal text
with blanks around it (`Writes`).

*Reading.*  The number is taken as it is.  The text is read as the nearest binary64 number
(`readNumeral?_decimalText`), and that becomes a whole number again.  So a text is read as the
nearest whole number with few bits, or as nothing if the number is too large
(`toNumber?_of_writes`).  Both ways give the same exactly for the numbers with few bits that are not
too large (`toNumber?_text_eq_iff`).

*Coercion.*  What is read decides the verdict on a member, and the verdict decides the bag
(`coerce_insert_congr`).  In the other direction, the bag shows what was read, because no default is
too large (`natAbs_default_lt`).
-/

namespace ScreenDesign

open Json (AllDigits)

/-! ## Characters of a decimal text -/

theorem Text.asciiDigit_digitValue {c : Char} (h : c.isDigit = true) :
    ((digitValue? c).map asciiDigit).getD c = c := by
  have hrange : 48 ≤ c.toNat ∧ c.toNat ≤ 57 := Char.isDigit_iff_toNat.mp h
  have hvalue : digitValue? c = some (c.toNat - 48) := by
    simp [digitValue?, zeros, hrange.1, Nat.lt_succ_of_le hrange.2]
  rw [hvalue, Option.map_some, Option.getD_some, asciiDigit, Nat.add_sub_cancel' hrange.1,
    Char.ofNat_toNat]

theorem Text.not_isBlank_of_isDigit {c : Char} (h : c.isDigit = true) : isBlank c = false := by
  have hrange : 48 ≤ c.toNat ∧ c.toNat ≤ 57 := Char.isDigit_iff_toNat.mp h
  rw [Bool.eq_false_iff]
  intro hblank
  simp only [isBlank, isWhite, Bool.or_eq_true, Bool.and_eq_true, beq_iff_eq,
    decide_eq_true_eq] at hblank
  omega

theorem toList_decimalText (n : Int) :
    (decimalText n).toList = Binary64.withSign (decide (n < 0)) (Nat.toDigits 10 n.natAbs) :=
  Json.numeral_int n

/-- A character of a decimal text is no blank and no underscore, and no digit of another script. -/
theorem plain_of_mem_decimalText {n : Int} {c : Char} (hc : c ∈ (decimalText n).toList) :
    Text.isBlank c = false ∧ c ≠ '_' ∧ ((Text.digitValue? c).map Text.asciiDigit).getD c = c := by
  rcases isDigit_of_mem_decimalText hc with rfl | hdigit
  · decide
  · refine ⟨Text.not_isBlank_of_isDigit hdigit, ?_, Text.asciiDigit_digitValue hdigit⟩
    rintro rfl
    cases hdigit

/-! ## Reading a decimal text -/

namespace Numeral

/-- A text without underscores has none to take out. -/
theorem joinDigits_of_notMem {cs : List Char} (h : '_' ∉ cs) (after : Bool) :
    joinDigits after cs = some cs := by
  induction cs generalizing after with
  | nil => rfl
  | cons c cs ih =>
      rw [List.mem_cons, not_or] at h
      have hrest := ih h.2 c.isDigit
      have hc : c ≠ '_' := Ne.symm h.1
      unfold joinDigits
      split
      case h_1 heq => cases heq
      case h_2 heq => exact absurd (List.cons.inj heq).1 hc
      case h_3 heq =>
          obtain ⟨rfl, rfl⟩ := List.cons.inj heq
          rw [hrest, Option.map_some]

theorem sign_withSign (negative : Bool) {ds : List Char} (hd : AllDigits ds) :
    sign (Binary64.withSign negative ds) = (negative, ds) := by
  cases negative with
  | true => rfl
  | false =>
      cases ds with
      | nil => rfl
      | cons d ds =>
          have hdigit := hd d List.mem_cons_self
          show sign (d :: ds) = (false, d :: ds)
          unfold sign
          split
          case h_1 heq =>
              obtain ⟨rfl, -⟩ := List.cons.inj heq
              cases hdigit
          case h_2 heq =>
              obtain ⟨rfl, -⟩ := List.cons.inj heq
              cases hdigit
          case h_3 => rfl

/-- No word begins like a number. -/
theorem toLower_ne_word {ds : List Char} (hd : AllDigits ds) (hne : ds ≠ []) {word : String}
    (hword : word.toList.head?.any Char.isDigit = false) :
    String.ofList (ds.map Char.toLower) ≠ word := by
  rintro rfl
  obtain ⟨d, ds, rfl⟩ := List.exists_cons_of_ne_nil hne
  have hdigit := hd d List.mem_cons_self
  have hlower : d.toLower = d := by
    have hrange : 48 ≤ d.toNat ∧ d.toNat ≤ 57 := Char.isDigit_iff_toNat.mp hdigit
    refine dif_neg ?_
    rintro ⟨hlow, -⟩
    have hlow : 65 ≤ d.toNat := hlow
    omega
  rw [String.toList_ofList, List.map_cons, hlower, List.head?_cons, Option.any_some, hdigit]
    at hword
  cases hword

/-- Digits with a sign are read as the decimal that they write. -/
theorem datum?_withSign (negative : Bool) {ds : List Char} (hd : AllDigits ds) (hne : ds ≠ []) :
    datum? (Binary64.withSign negative ds) =
      some (Binary64.ofDecimal negative (ofDigits ds) 0) := by
  have hinf : String.ofList (ds.map Char.toLower) ≠ "inf" := toLower_ne_word hd hne (by decide)
  have hinfinity : String.ofList (ds.map Char.toLower) ≠ "infinity" :=
    toLower_ne_word hd hne (by decide)
  have hnan : String.ofList (ds.map Char.toLower) ≠ "nan" := toLower_ne_word hd hne (by decide)
  have hdigits : digits ds = (ds, []) := by
    have hends := Json.digits_append hd Json.ends_nil.halts
    rwa [List.append_nil] at hends
  simp [datum?, sign_withSign negative hd, hinf, hinfinity, hnan, decimal?, hdigits, fraction,
    exponent?, hne]

/-- The decimal text of a whole number is read as the nearest binary64 number. -/
theorem readNumeral?_decimalText (n : Int) :
    readNumeral? (decimalText n) = some (Binary64.ofRatio (decide (n < 0)) n.natAbs 1) := by
  have htrim : Text.trimBy Text.isWhite (decimalText n).toList = (decimalText n).toList := by
    have hwhite : ∀ c ∈ (decimalText n).toList, Text.isWhite c = false := by
      intro c hc
      have hblank := (plain_of_mem_decimalText hc).1
      rw [Text.isBlank, Bool.or_eq_false_iff] at hblank
      exact hblank.1
    have hpadded := Text.trimBy_padded (List.forall_mem_nil _) hwhite (List.forall_mem_nil _)
    rwa [List.nil_append, List.append_nil] at hpadded
  have hascii : Text.asciiDigits (decimalText n).toList = (decimalText n).toList :=
    (List.map_congr_left fun c hc => (plain_of_mem_decimalText hc).2.2).trans (List.map_id _)
  have hjoin : joinDigits false (decimalText n).toList = some (decimalText n).toList :=
    joinDigits_of_notMem (fun hmem => (plain_of_mem_decimalText hmem).2.1 rfl) false
  rw [readNumeral?, htrim, hascii, hjoin, Option.bind_some, toList_decimalText,
    datum?_withSign _ (Json.allDigits_toDigits _) Nat.toDigits_ne_nil, Json.ofDigits_toDigits,
    Binary64.ofDecimal_eq]
  simp

end Numeral

/-! ## Texts that write a whole number -/

/-- A text that writes a whole number: its decimal text with blanks around it. -/
def Writes (n : Int) (s : String) : Prop :=
  ∃ front back, s.toList = front ++ (decimalText n).toList ++ back ∧
    (∀ c ∈ front, Text.isBlank c = true) ∧ ∀ c ∈ back, Text.isBlank c = true

open Binary64 (FewBits overflow roundWhole)

section

variable {n : Int} {s : String}

theorem Writes.trim_eq (h : Writes n s) : Text.trim s = decimalText n := by
  obtain ⟨front, back, hs, hfront, hback⟩ := h
  have hblank : ∀ c ∈ (decimalText n).toList, Text.isBlank c = false := fun _ hc =>
    (plain_of_mem_decimalText hc).1
  rw [Text.trim, hs, Text.trimBy_padded hfront hblank hback, String.ofList_toList]

/-- A text that writes a whole number is read as the nearest one with few bits, or as nothing if
the number is too large. -/
theorem toNumber?_of_writes (h : Writes n s) :
    (Json.text s).toNumber? = if n.natAbs < overflow then some (.int (roundWhole n)) else none := by
  rw [Json.toNumber?, Json.finiteNumber?, h.trim_eq, Numeral.readNumeral?_decimalText]
  by_cases hsmall : n.natAbs < overflow
  · have hwhole := Binary64.whole?_ofRatio hsmall
    simp [hsmall, Binary64.isFinite_of_whole? hwhole, Number.settle, hwhole]
  · rw [Binary64.ofRatio_one_of_overflow _ (Nat.not_lt.mp hsmall), if_neg hsmall]
    rfl

/-- A text is read as the number that it writes exactly if that number has few bits and is not too
large. -/
theorem toNumber?_text_eq_iff (h : Writes n s) :
    (Json.text s).toNumber? = (Json.int n).toNumber? ↔ n.natAbs < overflow ∧ FewBits n.natAbs := by
  have hint : (Json.int n).toNumber? = some (.int n) := rfl
  rw [toNumber?_of_writes h, hint, ← Binary64.roundWhole_eq_iff]
  split
  case isTrue hsmall =>
      rw [Option.some_inj, Number.int.injEq]
      exact ⟨fun heq => ⟨hsmall, heq⟩, And.right⟩
  case isFalse hlarge => exact ⟨nofun, fun hexact => absurd hexact.1 hlarge⟩

end

/-! ## Bags -/

namespace ComponentType

variable {t : ComponentType}

/-- A value is judged by what the kind of its key takes from it. -/
theorem judge_congr {key : String} {kind : FieldKind} {v w : Json}
    (found : t.kind? key = some kind) (hv : v ≠ .null) (hw : w ≠ .null)
    (h : kind.take? v = kind.take? w) : t.judge key v = t.judge key w := by
  simp only [judge, if_neg hv, if_neg hw, found, h]

/-- Values with the same verdict give the same bag. -/
theorem coerce_insert_congr {key : String} {v w : Json} (h : t.judge key v = t.judge key w)
    (members : Bag) :
    t.coerce (.object (Entries.insert members key v)) =
      t.coerce (.object (Entries.insert members key w)) := by
  have hmerge (bag : Bag) : t.mergeMember bag (key, v) = t.mergeMember bag (key, w) := by
    simp only [mergeMember, h]
  rw [coerce, coerce]
  generalize t.defaults = bag
  induction members generalizing bag with
  | nil => exact hmerge bag
  | cons member members ih =>
      obtain ⟨k, j⟩ := member
      rw [Entries.insert, Entries.insert]
      split
      case isTrue same => rw [List.foldl_cons, List.foldl_cons, same, hmerge]
      case isFalse => exact ih (t.mergeMember bag (k, j))

/-- A field has what its kind takes from the value in the bag, or else its default. -/
theorem get?_coerce_insert {f : Field} (hf : f ∈ t.fields) {bag : Bag}
    (distinct : (Entries.keys bag).Nodup) (v : Json) :
    Entries.get? (t.coerce (.object (Entries.insert bag f.key v))) f.key =
      some ((f.kind.take? v).getD f.default).toJson := by
  rw [get?_coerce hf (Entries.nodup_keys_insert distinct f.key v), Field.coercedIn,
    Entries.get?_insert_self, Option.bind_some]

/-- No default is too large for a binary64 number. -/
theorem natAbs_default_lt {f : Field} (hf : f ∈ t.fields) {n : Int}
    (h : f.default = .number (.int n)) : n.natAbs < overflow := by
  have hsmall : ∀ f ∈ t.fields, ∀ n, f.default = .number (.int n) → n.natAbs ≤ 120 := by
    cases t <;> simp [fields, buttonFields, textFieldFields, cardFields, listFields, iconFields,
      containerFields, flexFields, stackFields, toggleFields, checkboxFields, radioFields,
      chatInputFields, chatMessageFields, dropdownFields, inputWithLabelFields,
      toggleWithLabelFields, radioWithLabelFields, checkboxWithLabelFields, dynamicTableFields,
      Field.text, Field.number, Field.flag, Field.structured]
  have hbits : 120 < Nat.pow 2 53 := by decide
  exact Binary64.lt_overflow ((hsmall f hf n h).trans_lt hbits)

/-- A text under a numeric key gives the bag that the number gives exactly if the number has few
bits and is not too large. -/
theorem coerce_text_eq_iff {n : Int} {s : String} (h : Writes n s) {f : Field} (hf : f ∈ t.fields)
    (hkind : f.kind = .number) {bag : Bag} (distinct : (Entries.keys bag).Nodup) :
    t.coerce (.object (Entries.insert bag f.key (.text s))) =
        t.coerce (.object (Entries.insert bag f.key (.int n))) ↔
      n.natAbs < overflow ∧ FewBits n.natAbs := by
  rw [← toNumber?_text_eq_iff h]
  constructor
  · intro hsame
    have htext := get?_coerce_insert hf distinct (.text s)
    rw [hsame, get?_coerce_insert hf distinct, Option.some_inj] at htext
    have hvalue := FieldValue.toJson_injective htext
    rw [hkind, FieldKind.take?, FieldKind.take?] at hvalue
    cases hread : (Json.text s).toNumber? with
    | some m =>
        rw [hread] at hvalue
        exact congrArg some (FieldValue.number.inj hvalue).symm
    | none =>
        rw [hread] at hvalue
        have hsmall := natAbs_default_lt hf hvalue.symm
        rw [toNumber?_of_writes h, if_pos hsmall] at hread
        cases hread
  · intro hsame
    have htake : f.kind.take? (.text s) = f.kind.take? (.int n) := by
      rw [hkind, FieldKind.take?, FieldKind.take?, hsame]
    have htext : Json.text s ≠ .null := Json.ne_null_of_isScalar rfl
    have hint : Json.int n ≠ .null := Json.ne_null_of_isScalar rfl
    exact coerce_insert_congr (judge_congr (kind?_key hf) htext hint htake) bag

end ComponentType

/-! ## Texts and numbers -/

/-- A whole number is taken as it is, and a text that writes it is read as the nearest whole number
with few bits, or as nothing if the number is too large.  So the text stands for the number, and
gives the same bag under every numeric key, exactly if the number has few bits and is not too
large. -/
theorem numbers_from_text {n : Int} {s : String} (hs : Writes n s) :
    (Json.int n).toNumber? = some (.int n) ∧
      ((Json.text s).toNumber? = if n.natAbs < overflow then some (.int (roundWhole n)) else none) ∧
      (FewBits (roundWhole n).natAbs ∧
        ∀ k : Int, FewBits k.natAbs → (n - roundWhole n).natAbs ≤ (n - k).natAbs) ∧
      ((Json.text s).toNumber? = (Json.int n).toNumber? ↔
        n.natAbs < overflow ∧ FewBits n.natAbs) ∧
      ∀ t : ComponentType, ∀ f ∈ t.fields, f.kind = .number →
        ∀ bag : Bag, (Entries.keys bag).Nodup →
          (t.coerce (.object (Entries.insert bag f.key (.text s))) =
              t.coerce (.object (Entries.insert bag f.key (.int n))) ↔
            n.natAbs < overflow ∧ FewBits n.natAbs) := by
  refine ⟨rfl, toNumber?_of_writes hs, ⟨Binary64.fewBits_natAbs_roundWhole n, ?_⟩,
    toNumber?_text_eq_iff hs, ?_⟩
  · intro k hk
    exact Binary64.natAbs_sub_roundWhole_le n hk
  · intro t f hf hkind bag distinct
    exact t.coerce_text_eq_iff hs hf hkind distinct

/-- A large number with a single bit, written with blanks around it. -/
theorem numbers_from_text_padding :
    Writes (-1152921504606846976) " -1152921504606846976\t" ∧
      (Json.text " -1152921504606846976\t").toNumber? = some (.int (-1152921504606846976)) ∧
      ComponentType.button.coerce
          (.object [("padding", .text " -1152921504606846976\t"), ("tip", .bool true)]) =
        ComponentType.button.coerce
          (.object [("padding", .int (-1152921504606846976)), ("tip", .bool true)]) := by
  have hs : Writes (-1152921504606846976) " -1152921504606846976\t" :=
    ⟨[' '], ['\t'], by decide, List.forall_mem_singleton.mpr rfl, List.forall_mem_singleton.mpr rfl⟩
  have hfew : (-1152921504606846976 : Int).natAbs < overflow ∧
      FewBits (-1152921504606846976 : Int).natAbs :=
    ⟨by decide +kernel, 1, 60, by decide, by decide⟩
  obtain ⟨hint, -, -, hread, hbag⟩ := numbers_from_text hs
  refine ⟨hs, (hread.mpr hfew).trans hint, ?_⟩
  exact (hbag .button (.number "padding" "padding" 16) (by decide) rfl
    [("padding", .text "wide"), ("tip", .bool true)] (by decide)).mpr hfew

/-- A number with one bit too many loses its last digit when it is given as text.  A record that is
read from the same text keeps it. -/
theorem last_digit_lost :
    Writes 9007199254740993 "9007199254740993" ∧
      (Json.int 9007199254740993).toNumber? = some (.int 9007199254740993) ∧
      (Json.text "9007199254740993").toNumber? = some (.int 9007199254740992) ∧
      FieldValue.readNumber (.text "9007199254740993") = .ok (.number (.int 9007199254740993)) ∧
      ComponentType.button.coerce (.object [("padding", .text "9007199254740993")]) ≠
        ComponentType.button.coerce (.object [("padding", .int 9007199254740993)]) := by
  refine ⟨⟨[], [], by decide, List.forall_mem_nil _, List.forall_mem_nil _⟩, rfl, ?_, ?_, ?_⟩
  · decide +kernel
  · decide +kernel
  · decide +kernel

end ScreenDesign
