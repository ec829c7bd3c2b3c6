import ScreenDesign.Proofs.Entries
import ScreenDesign.Proofs.Json.Rereading

/-!
# Whole numbers with few digits

A value is *brief* if no whole number in it has more digits than can be read.  Whatever
is read from a text is brief (`isBrief_of_parse`), because a longer number stops the
reader.  A member of a brief value is brief, and so is a number that was settled: a
binary64 number that is whole has some three hundred digits at most
(`isBrief_settle`).

More generally, a value that is read has each property that values take over from their
parts (`Inherited.of_parse`), where numbers may be taken to be brief and the keys of an
object to be distinct.
-/

namespace ScreenDesign

/-! ## Numbers -/

/-- Whether a number is no whole number with too many digits. -/
def Number.isBrief : Number → Bool
  | .int n => (Nat.toDigits 10 n.natAbs).length ≤ Numeral.maxDigits
  | .float _ => true

/-- A brief number is kept by its text unless it is the value that is no number. -/
theorem Number.isKept_of_isBrief {n : Number} (h : n.isBrief = true) (hfinite : n.isFinite = true) :
    n.isKept = true := by
  cases n with
  | int n => exact h
  | float x =>
      refine decide_eq_true ?_
      rintro rfl
      cases hfinite

namespace Numeral

theorem ofDigits_lt {ds : List Char} (h : Json.AllDigits ds) : ofDigits ds < 10 ^ ds.length := by
  induction ds using List.reverseRecOn with
  | nil => exact Nat.one_pos
  | append_singleton ds d ih =>
      have hd : d.isDigit = true := h d (by simp)
      have hds := ih fun c hc => h c (List.mem_append_left _ hc)
      have hvalue : d.toNat - '0'.toNat < 10 := by
        have hrange := Char.isDigit_iff_toNat.mp hd
        have hzero : '0'.toNat = 48 := rfl
        have hnine : '9'.toNat = 57 := rfl
        omega
      have hstep : ofDigits (ds ++ [d]) = 10 * ofDigits ds + (d.toNat - '0'.toNat) := by
        rw [ofDigits, Nat.ofDigitChars_append]
        rfl
      rw [hstep, List.length_append, List.length_singleton, Nat.pow_succ]
      omega

/-- A number that was written with few enough digits has few enough digits. -/
theorem length_toDigits_le {ds : List Char} {k : Nat} (h : Json.AllDigits ds) (hk : 0 < k)
    (hlength : ds.length ≤ k) : (Nat.toDigits 10 (ofDigits ds)).length ≤ k := by
  rw [Nat.length_toDigits_le_iff (by decide) hk]
  exact (ofDigits_lt h).trans_le (Nat.pow_le_pow_right (by decide) hlength)

end Numeral

/-- A whole binary64 number is below the bound from which numbers are infinite. -/
theorem Binary64.natAbs_lt_of_whole? {x : Binary64} {n : Int} (h : x.whole? = some n) :
    n.natAbs < overflow := by
  cases x with
  | finite negative rank =>
      simp only [whole?] at h
      split at h
      case isTrue hdvd =>
        have hden := ratio_den_pos rank.val
        have hnum : (ratio rank.val).1 / (ratio rank.val).2 * (ratio rank.val).2 =
            (ratio rank.val).1 := Nat.div_mul_cancel (Nat.dvd_of_mod_eq_zero hdvd)
        obtain rfl := Option.some.inj h
        have habs : (signed negative ((ratio rank.val).1 / (ratio rank.val).2)).natAbs =
            (ratio rank.val).1 / (ratio rank.val).2 := by
          rw [signed]
          split
          · exact Int.natAbs_neg _
          · rfl
        rw [habs]
        by_contra hlarge
        have hsame := ofRatio_congr negative Nat.one_pos hden
          (by rw [hnum, Nat.mul_one] : (ratio rank.val).1 / (ratio rank.val).2 *
            (ratio rank.val).2 = (ratio rank.val).1 * 1)
        rw [ofRatio_one_of_overflow negative (Nat.not_lt.mp hlarge), ofRatio_ratio, ofRank,
          dif_pos rank.isLt] at hsame
        cases hsame
      case isFalse => cases h
  | infinite negative => cases h
  | nan => cases h

/-- A number below that bound has few enough digits. -/
theorem Numeral.length_toDigits_of_lt_overflow {n : Nat} (h : n < Binary64.overflow) :
    (Nat.toDigits 10 n).length ≤ maxDigits := by
  obtain ⟨k, hpos, hk, hlarge⟩ : ∃ k, 0 < k ∧ k ≤ maxDigits ∧ Binary64.overflow ≤ Nat.pow 10 k :=
    ⟨310, by decide, by decide, by decide +kernel⟩
  exact ((Nat.length_toDigits_le_iff (by decide) hpos).mpr (h.trans_le hlarge)).trans hk

/-- A settled number is brief if the number was. -/
theorem Number.isBrief_settle {n : Number} (h : n.isBrief = true) : n.settle.isBrief = true := by
  cases n with
  | int n => exact h
  | float x =>
      rw [settle]
      split
      case h_1 n hn =>
        exact decide_eq_true
          (Numeral.length_toDigits_of_lt_overflow (Binary64.natAbs_lt_of_whole? hn))
      case h_2 => rfl

/-! ## Values -/

namespace Json

mutual

/-- Whether no whole number in a value has too many digits. -/
def isBrief : Json → Bool
  | .number n => n.isBrief
  | .list items => itemsBrief items
  | .object members => membersBrief members
  | _ => true
termination_by structural j => j

/-- Whether all items of a list are brief. -/
def itemsBrief : List Json → Bool
  | [] => true
  | j :: js => isBrief j && itemsBrief js
termination_by structural js => js

/-- Whether the values of all members are brief. -/
def membersBrief : List (String × Json) → Bool
  | [] => true
  | (_, j) :: ms => isBrief j && membersBrief ms
termination_by structural ms => ms

end

theorem itemsBrief_iff {js : List Json} : itemsBrief js = true ↔ ∀ j ∈ js, j.isBrief = true := by
  induction js with
  | nil => simp [itemsBrief]
  | cons j js ih => simp [itemsBrief, ih]

theorem membersBrief_iff {ms : List (String × Json)} :
    membersBrief ms = true ↔ ∀ m ∈ ms, m.2.isBrief = true := by
  induction ms with
  | nil => simp [membersBrief]
  | cons m ms ih => simp [membersBrief, ih]

theorem isBrief_get? {j k : Json} {key : String} (h : j.isBrief = true)
    (hk : j.get? key = some k) : k.isBrief = true := by
  cases j with
  | object members =>
      rw [isBrief, membersBrief_iff] at h
      exact h (key, k) (Entries.mem_of_get? hk)
  | _ => cases hk

theorem isBrief_getD {j : Json} (key : String) (h : j.isBrief = true) :
    (j.getD key).isBrief = true := by
  rw [getD]
  cases hk : j.get? key with
  | none => rfl
  | some k => exact isBrief_get? h hk

/-! ## What is read -/

variable {α β : Type}

/-- What a reader finds has a property. -/
def Finds (P : α → Prop) : Except Stop (α × List Char) → Prop
  | .ok (a, _) => P a
  | .error _ => True

theorem Finds.map {P : α → Prop} {Q : β → Prop} {x : Except Stop (α × List Char)} (h : Finds P x)
    {f : α → β} (hf : ∀ a, P a → Q (f a)) :
    Finds Q (x.map fun (a, rest) => (f a, rest)) := by
  match x, h with
  | .ok (a, rest), h => exact hf a h
  | .error _, _ => trivial

theorem Finds.of_eq_ok {P : α → Prop} {x : Except Stop (α × List Char)} (h : Finds P x) {a : α}
    {rest : List Char} (hx : x = .ok (a, rest)) : P a := by
  subst hx
  exact h

theorem allDigits_wholeDigits (cs : List Char) : AllDigits (wholeDigits cs).1 := by
  unfold wholeDigits
  split
  · exact List.forall_mem_singleton.mpr rfl
  · exact fun c hc => List.mem_takeWhile_imp hc

theorem natAbs_signed (negative : Bool) (n : Nat) : (Binary64.signed negative n).natAbs = n := by
  cases negative with
  | false => rfl
  | true => exact Int.natAbs_neg n

/-- A number that is read is brief. -/
theorem finds_readNumber (cs : List Char) : Finds (·.isBrief = true) (readNumber cs) := by
  fun_cases readNumber cs with
  | case1 => trivial
  | case2 => trivial
  | case3 negative unsigned hsign whole afterWhole hwhole part afterPart hpart e rest hrest hempty
      hint hmany =>
      have hdigits := allDigits_wholeDigits unsigned
      rw [hwhole] at hdigits
      refine decide_eq_true ?_
      rw [natAbs_signed]
      exact Numeral.length_toDigits_le hdigits (by decide) (Nat.not_lt.mp hmany)
  | case4 => exact rfl

/-- A property that a value of a text has because its parts have it. -/
structure Inherited (P : Json → Prop) : Prop where
  word : ∀ word ∈ valueWords, P word.2
  number : ∀ {n : Number}, n.isBrief = true → P (.number n)
  text : ∀ s, P (.text s)
  list : ∀ {js : List Json}, (∀ j ∈ js, P j) → P (.list js)
  /-- The keys of an object that is read do not repeat. -/
  object : ∀ {ms : List (String × Json)}, (Entries.keys ms).Nodup → (∀ m ∈ ms, P m.2) →
    P (.object ms)

namespace Inherited

variable {P : Json → Prop} (h : Inherited P)

include h

theorem of_readWord? {cs rest : List Char} {j : Json} (hword : readWord? cs = some (j, rest)) :
    P j := by
  obtain ⟨⟨word, k⟩, hmem, hword⟩ := List.exists_of_findSome?_eq_some hword
  obtain ⟨after, -, hrest⟩ := Option.map_eq_some_iff.mp hword
  cases hrest
  exact h.word _ hmem

theorem ofPairs {ms : List (String × Json)} (hms : ∀ m ∈ ms, P m.2) :
    P (.object (Entries.ofPairs ms)) := by
  have hnone : (Entries.keys ([] : Entries Json)).Nodup := List.nodup_nil
  refine h.object (Entries.nodup_keys_insertAll hnone ms) fun m hm => ?_
  rcases Entries.mem_insertAll hm with hm | hm
  · exact hms m hm
  · cases hm

section Values

variable {fuel : Nat} (hvalue : ∀ cs, Finds P (readValue fuel cs))
  (hitems : ∀ cs, Finds (∀ j ∈ ·, P j) (readItems fuel cs))
  (hmembers : ∀ cs, Finds (∀ m ∈ ·, P m.2) (readMembers fuel cs))

include hitems hmembers in
theorem finds_readValue_succ (cs : List Char) : Finds P (readValue (fuel + 1) cs) := by
  unfold readValue
  split
  case h_1 rest =>
    cases readText ('\x22' :: rest) rest with
    | ok found => exact h.text found.1
    | error stop => trivial
  case h_2 =>
    split
    case h_1 => exact h.object List.nodup_nil nofun
    case h_2 => exact (hmembers _).map fun _ hms => h.ofPairs hms
  case h_3 =>
    split
    case h_1 => exact h.list nofun
    case h_2 => exact (hitems _).map fun _ hjs => h.list hjs
  case h_4 =>
    split
    case h_1 found hfound => exact h.of_readWord? hfound
    case h_2 => exact (finds_readNumber _).map fun _ hn => h.number hn

omit h in
include hvalue hitems in
theorem finds_readItems_succ (cs : List Char) :
    Finds (∀ j ∈ ·, P j) (readItems (fuel + 1) cs) := by
  unfold readItems
  split
  case h_1 => trivial
  case h_2 j rest hread =>
    have hj : P j := (hvalue cs).of_eq_ok hread
    split
    case h_1 => exact List.forall_mem_singleton.mpr hj
    case h_2 => exact (hitems _).map fun js hjs => List.forall_mem_cons.mpr ⟨hj, hjs⟩
    case h_3 => trivial

omit h in
include hvalue hmembers in
theorem finds_readMembers_succ (cs : List Char) :
    Finds (∀ m ∈ ·, P m.2) (readMembers (fuel + 1) cs) := by
  unfold readMembers
  split
  case h_1 =>
    split
    case h_1 => trivial
    case h_2 =>
      split
      case h_1 =>
        split
        case h_1 => trivial
        case h_2 j rest hread =>
          have hj : P j := (hvalue _).of_eq_ok hread
          split
          case h_1 => exact List.forall_mem_singleton.mpr hj
          case h_2 => exact (hmembers _).map fun ms hms => List.forall_mem_cons.mpr ⟨hj, hms⟩
          case h_3 => trivial
      case h_2 => trivial
  case h_2 => trivial

end Values

/-- Values, items and members that are read have the property, with any fuel. -/
theorem finds_read (fuel : Nat) : (∀ cs, Finds P (readValue fuel cs)) ∧
    (∀ cs, Finds (∀ j ∈ ·, P j) (readItems fuel cs)) ∧
      ∀ cs, Finds (∀ m ∈ ·, P m.2) (readMembers fuel cs) := by
  induction fuel with
  | zero => exact ⟨fun _ => trivial, fun _ => trivial, fun _ => trivial⟩
  | succ fuel ih =>
      obtain ⟨hvalue, hitems, hmembers⟩ := ih
      exact ⟨h.finds_readValue_succ hitems hmembers, finds_readItems_succ hvalue hitems,
        finds_readMembers_succ hvalue hmembers⟩

/-- A value that a text writes has the property. -/
theorem of_parse {s : String} {j : Json} (hparse : parse s = .ok j) : P j := by
  have hread : readAll s.toList = .ok j := by
    unfold parse at hparse
    split at hparse
    case h_1 k hk =>
      cases hparse
      exact hk
    case h_2 => cases hparse
  unfold readAll at hread
  split at hread
  · cases hread
  · split at hread
    case h_1 => cases hread
    case h_2 k rest hvalue =>
      have hk := ((h.finds_read _).1 _).of_eq_ok hvalue
      split at hread
      · cases hread
        exact hk
      · cases hread

end Inherited

theorem inherited_isBrief : Inherited (·.isBrief = true) where
  word := by decide
  number hn := hn
  text _ := rfl
  list hjs := itemsBrief_iff.mpr hjs
  object _ hms := membersBrief_iff.mpr hms

/-- A value that a text writes is brief. -/
theorem isBrief_of_parse {s : String} {j : Json} (h : parse s = .ok j) : j.isBrief = true :=
  inherited_isBrief.of_parse h

end Json

end ScreenDesign
