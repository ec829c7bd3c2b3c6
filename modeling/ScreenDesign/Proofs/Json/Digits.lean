import Mathlib.Data.List.Infix
import Mathlib.Data.List.TakeWhile
import ScreenDesign.Json.Reader

/-!
# When a text has too many digits

Reading JSON stops at a whole number with too many digits only if the text has that
many digits in a row (`hasDigits_of_parse`).

The reader is sound in the sense of `Sound`: what it leaves is the end of what it was
given, and if it stops at a number, the digits of the number stand in what it was given.
Every part of the reader is, from texts and numbers to values.
-/

namespace ScreenDesign.Json

/-! ## Digits in a row -/

/-- A text has a number of digits in a row. -/
def HasDigits (count : Nat) (cs : List Char) : Prop :=
  ∃ run, run <:+: cs ∧ run.length = count ∧ ∀ c ∈ run, c.isDigit = true

theorem HasDigits.mono {count : Nat} {cs ds : List Char} (h : HasDigits count cs)
    (hcs : cs <:+: ds) : HasDigits count ds := by
  obtain ⟨run, hrun, hlength, hdigits⟩ := h
  exact ⟨run, hrun.trans hcs, hlength, hdigits⟩

variable {α β : Type}

/-- What can be said of reading a part of a text. -/
def Sound (cs : List Char) : Except Stop (α × List Char) → Prop
  | .ok (_, rest) => rest <:+ cs
  | .error (.digits count) => Numeral.maxDigits < count ∧ HasDigits count cs
  | .error (.flaw _ _) => True

namespace Sound

variable {cs ds : List Char} {x : Except Stop (α × List Char)}

theorem mono (h : Sound cs x) (hcs : cs <:+ ds) : Sound ds x := by
  match x, h with
  | .ok (_, rest), h => exact List.IsSuffix.trans h hcs
  | .error (.digits count), h => exact ⟨h.1, h.2.mono hcs.isInfix⟩
  | .error (.flaw _ _), _ => trivial

theorem map (h : Sound cs x) (f : α → β) : Sound cs (x.map fun (a, rest) => (f a, rest)) := by
  match x, h with
  | .ok (_, rest), h => exact h
  | .error (.digits count), h => exact h
  | .error (.flaw _ _), _ => trivial

/-- What stopped one part stops the whole. -/
theorem error {stop : Stop} (h : Sound cs (α := α) (.error stop)) :
    Sound cs (α := β) (.error stop) := by
  cases stop with
  | flaw found rest => trivial
  | digits count => exact h

end Sound

/-! ## Texts -/

/-- The second half of a pair leaves the end of the text. -/
theorem suffix_of_lowHalf {cs after : List Char} {low : Nat}
    (h : lowHalf cs = .ok (some (low, after))) : after <:+ cs := by
  unfold lowHalf at h
  split at h
  · split at h
    · split at h
      · cases h
        exact ⟨['\\', 'u', _, _, _, _], rfl⟩
      · cases h
    · cases h
  · cases h

theorem lowHalf_ne_digits {cs : List Char} {count : Nat} : lowHalf cs ≠ .error (.digits count) := by
  unfold lowHalf
  split
  · split
    · split
      · nofun
      · nofun
    · nofun
  · nofun

theorem sound_textBody (start : List Char) (fuel : Nat) (cs : List Char) :
    Sound cs (textBody start fuel cs) := by
  induction fuel generalizing cs with
  | zero => trivial
  | succ fuel ih =>
      cases cs with
      | nil => trivial
      | cons c cs =>
          have hmore (x : Char) (rest : List Char) (hrest : rest <:+ c :: cs) :=
            ((ih rest).map (x :: ·)).mono hrest
          unfold textBody
          simp only
          split
          case isTrue => exact List.suffix_cons c cs
          split
          case isTrue =>
            split
            case h_1 => trivial
            case h_2 a b d e f rest =>
              have hrest : f :: rest <:+ c :: 'u' :: a :: b :: d :: e :: f :: rest :=
                ⟨[c, 'u', a, b, d, e], rfl⟩
              split
              case h_1 => trivial
              case h_2 unit _ =>
                split
                case isTrue =>
                  split
                  case h_1 stop hlow =>
                    cases stop with
                    | flaw found rest => trivial
                    | digits count => exact absurd hlow lowHalf_ne_digits
                  case h_2 low after hlow =>
                    exact hmore _ _ ((suffix_of_lowHalf hlow).trans hrest)
                  case h_3 => exact hmore _ _ hrest
                case isFalse => exact hmore _ _ hrest
            case h_3 => trivial
            case h_4 x rest _ _ =>
              split
              case h_1 => exact hmore _ _ ⟨[c, x], rfl⟩
              case h_2 => trivial
          case isFalse =>
            split
            case isTrue => trivial
            case isFalse => exact hmore _ _ (List.suffix_cons c cs)

theorem sound_readText (start cs : List Char) : Sound cs (readText start cs) :=
  (sound_textBody start (cs.length + 1) cs).map String.ofList

/-! ## Numbers and words -/

theorem suffix_digits (cs : List Char) : (Numeral.digits cs).2 <:+ cs := List.dropWhile_suffix _

theorem suffix_sign (cs : List Char) : (Numeral.sign cs).2 <:+ cs := by
  unfold Numeral.sign
  split
  · exact List.suffix_cons _ _
  · exact List.suffix_cons _ _
  · exact List.suffix_refl cs

theorem suffix_wholeDigits (cs : List Char) : (wholeDigits cs).2 <:+ cs := by
  unfold wholeDigits
  split
  · exact List.suffix_cons _ _
  · exact suffix_digits cs

theorem suffix_fractionDigits (cs : List Char) : (fractionDigits cs).2 <:+ cs := by
  simp only [fractionDigits]
  split
  · exact List.suffix_refl cs
  · unfold Numeral.fraction
    split
    · exact (suffix_digits _).trans (List.suffix_cons _ _)
    · exact List.suffix_refl cs

theorem suffix_exponentPart (cs : List Char) : (exponentPart cs).2 <:+ cs := by
  unfold exponentPart
  split
  · split
    · simp only
      split
      · exact List.suffix_refl _
      · exact (suffix_digits _).trans ((suffix_sign _).trans (List.suffix_cons _ _))
    · exact List.suffix_refl _
  · exact List.suffix_refl _

/-- The digits before the point stand at the front of the text. -/
theorem hasDigits_wholeDigits (cs : List Char) :
    HasDigits (wholeDigits cs).1.length cs := by
  refine ⟨(wholeDigits cs).1, ?_, rfl, ?_⟩
  · unfold wholeDigits
    split
    · exact List.IsPrefix.isInfix ⟨_, rfl⟩
    · exact (List.takeWhile_prefix _).isInfix
  · unfold wholeDigits
    split
    · exact List.forall_mem_singleton.mpr rfl
    · intro c hc
      exact List.mem_takeWhile_imp hc

/-- A number is read behind its sign. -/
theorem suffix_of_unsigned {cs unsigned : List Char} {negative : Bool}
    (h : (match cs with | '-' :: rest => (true, rest) | _ => (false, cs)) = (negative, unsigned)) :
    unsigned <:+ cs := by
  split at h
  · cases h
    exact List.suffix_cons _ _
  · cases h
    exact List.suffix_refl cs

theorem sound_readNumber (cs : List Char) : Sound cs (readNumber cs) := by
  fun_cases readNumber cs with
  | case1 => trivial
  | case2 negative unsigned hsign whole afterWhole hwhole part afterPart hpart e rest hrest hempty
      hint hmany =>
      have hdigits := hasDigits_wholeDigits unsigned
      rw [hwhole] at hdigits
      exact ⟨hmany, hdigits.mono (suffix_of_unsigned hsign).isInfix⟩
  | case3 negative unsigned hsign whole afterWhole hwhole part afterPart hpart e rest hrest =>
      have := suffix_wholeDigits unsigned
      rw [hwhole] at this
      exact this.trans (suffix_of_unsigned hsign)
  | case4 negative unsigned hsign whole afterWhole hwhole part afterPart hpart e rest hrest =>
      have hafterWhole := suffix_wholeDigits unsigned
      have hafterPart := suffix_fractionDigits afterWhole
      have hafter := suffix_exponentPart afterPart
      rw [hwhole] at hafterWhole
      rw [hpart] at hafterPart
      rw [hrest] at hafter
      exact hafter.trans (hafterPart.trans (hafterWhole.trans (suffix_of_unsigned hsign)))

theorem suffix_of_afterWord? {word cs rest : List Char} (h : afterWord? word cs = some rest) :
    rest <:+ cs := by
  induction word generalizing cs with
  | nil =>
      cases h
      exact List.suffix_refl _
  | cons w word ih =>
      cases cs with
      | nil => cases h
      | cons c cs =>
          rw [afterWord?] at h
          split at h
          · exact (ih h).trans (List.suffix_cons c cs)
          · cases h

theorem suffix_of_readWord? {cs rest : List Char} {j : Json} (h : readWord? cs = some (j, rest)) :
    rest <:+ cs := by
  obtain ⟨⟨word, k⟩, -, hword⟩ := List.exists_of_findSome?_eq_some h
  obtain ⟨after, hafter, hrest⟩ := Option.map_eq_some_iff.mp hword
  cases hrest
  exact suffix_of_afterWord? hafter

/-! ## Values -/

theorem suffix_skipSpace (cs : List Char) : skipSpace cs <:+ cs := List.dropWhile_suffix _

theorem suffix_of_skipSpace {cs rest after : List Char} {c : Char} (hrest : rest <:+ cs)
    (h : skipSpace rest = c :: after) : after <:+ cs := by
  have hafter : after <:+ skipSpace rest := h ▸ List.suffix_cons c after
  exact hafter.trans ((suffix_skipSpace rest).trans hrest)

section Values

variable {fuel : Nat} (hvalue : ∀ cs, Sound cs (readValue fuel cs))
  (hitems : ∀ cs, Sound cs (readItems fuel cs))
  (hmembers : ∀ cs, Sound cs (readMembers fuel cs))

include hitems hmembers in
theorem sound_readValue_succ (cs : List Char) : Sound cs (readValue (fuel + 1) cs) := by
  unfold readValue
  split
  case h_1 rest => exact ((sound_readText _ rest).map Json.text).mono (List.suffix_cons _ rest)
  case h_2 rest =>
    have hrest : rest <:+ '\x7b' :: rest := List.suffix_cons _ rest
    split
    case h_1 after hafter => exact suffix_of_skipSpace hrest hafter
    case h_2 =>
      exact ((hmembers _).map fun ms => Json.object (Entries.ofPairs ms)).mono
        ((suffix_skipSpace rest).trans hrest)
  case h_3 rest =>
    have hrest : rest <:+ '[' :: rest := List.suffix_cons _ rest
    split
    case h_1 after hafter => exact suffix_of_skipSpace hrest hafter
    case h_2 => exact ((hitems _).map Json.list).mono ((suffix_skipSpace rest).trans hrest)
  case h_4 =>
    split
    case h_1 found hfound => exact suffix_of_readWord? hfound
    case h_2 => exact (sound_readNumber cs).map Json.number

include hvalue hitems in
theorem sound_readItems_succ (cs : List Char) : Sound cs (readItems (fuel + 1) cs) := by
  unfold readItems
  have hfirst := hvalue cs
  split
  case h_1 stop hstop =>
    rw [hstop] at hfirst
    exact hfirst.error
  case h_2 j rest hread =>
    rw [hread] at hfirst
    split
    case h_1 after hafter => exact suffix_of_skipSpace hfirst hafter
    case h_2 more hmore =>
      exact ((hitems _).map (j :: ·)).mono
        ((suffix_skipSpace more).trans (suffix_of_skipSpace hfirst hmore))
    case h_3 => trivial

include hvalue hmembers in
theorem sound_readMembers_succ (cs : List Char) : Sound cs (readMembers (fuel + 1) cs) := by
  unfold readMembers
  split
  case h_1 inside =>
    have hname := (sound_readText ('\x22' :: inside) inside).mono
      (List.suffix_cons '\x22' inside)
    split
    case h_1 stop hstop =>
      rw [hstop] at hname
      exact hname.error
    case h_2 k rest hread =>
      rw [hread] at hname
      split
      case h_1 more hmore =>
        have hmember := (hvalue (skipSpace more)).mono
          ((suffix_skipSpace more).trans (suffix_of_skipSpace hname hmore))
        split
        case h_1 stop hstop =>
          rw [hstop] at hmember
          exact hmember.error
        case h_2 j rest hread =>
          rw [hread] at hmember
          split
          case h_1 after hafter => exact suffix_of_skipSpace hmember hafter
          case h_2 more hmore =>
            exact ((hmembers _).map ((k, j) :: ·)).mono
              ((suffix_skipSpace more).trans (suffix_of_skipSpace hmember hmore))
          case h_3 => trivial
      case h_2 => trivial
  case h_2 => trivial

end Values

/-- Values, items and members are read soundly, with any fuel. -/
theorem sound_read (fuel : Nat) : (∀ cs, Sound cs (readValue fuel cs)) ∧
    (∀ cs, Sound cs (readItems fuel cs)) ∧ ∀ cs, Sound cs (readMembers fuel cs) := by
  induction fuel with
  | zero => exact ⟨fun _ => trivial, fun _ => trivial, fun _ => trivial⟩
  | succ fuel ih =>
      obtain ⟨hvalue, hitems, hmembers⟩ := ih
      exact ⟨sound_readValue_succ hitems hmembers, sound_readItems_succ hvalue hitems,
        sound_readMembers_succ hvalue hmembers⟩

/-! ## The whole text -/

/-- A text that stops the reader at a number of digits has that many in a row, and they
are too many. -/
theorem hasDigits_of_readAll {cs : List Char} {count : Nat}
    (h : readAll cs = .error (.digits count)) :
    Numeral.maxDigits < count ∧ HasDigits count cs := by
  have hvalue := ((sound_read (2 * (cs.length + 1))).1 (skipSpace cs)).mono (suffix_skipSpace cs)
  unfold readAll at h
  split at h
  · cases h
  · split at h
    case h_1 stop hstop =>
      cases h
      rw [hstop] at hvalue
      exact hvalue
    case h_2 j rest hread =>
      split at h <;> cases h

/-- A text has a number with too many digits only if it has that many in a row. -/
theorem hasDigits_of_parse {s : String} {count : Nat}
    (h : parse s = .error (.tooManyDigits count)) :
    Numeral.maxDigits < count ∧ HasDigits count s.toList := by
  unfold parse at h
  split at h
  case h_1 => cases h
  case h_2 stop hstop =>
    cases stop with
    | flaw found rest => cases h
    | digits n =>
        cases h
        exact hasDigits_of_readAll hstop

/-! ## Readable texts -/

/-- A text whose reading does not stop at a number with too many digits. -/
def Readable (s : String) : Prop := ∀ count, parse s ≠ .error (.tooManyDigits count)

instance : DecidablePred Readable := fun s =>
  match h : parse s with
  | .error (.tooManyDigits count) => isFalse fun hs => hs count h
  | .error (.malformed ..) => isTrue fun _ h' => by rw [h] at h'; cases h'
  | .ok _ => isTrue fun _ h' => by rw [h] at h'; cases h'

/-- A text without too many digits in a row is readable. -/
theorem readable_of_hasDigits {s : String}
    (h : ∀ count, HasDigits count s.toList → count ≤ Numeral.maxDigits) : Readable s := by
  intro count hparse
  obtain ⟨hmany, hdigits⟩ := hasDigits_of_parse hparse
  exact Nat.not_le_of_lt hmany (h count hdigits)

/-- A short text is readable. -/
theorem readable_of_length_le {s : String} (h : s.toList.length ≤ Numeral.maxDigits) :
    Readable s := by
  refine readable_of_hasDigits fun count hdigits => ?_
  obtain ⟨run, hrun, rfl, -⟩ := hdigits
  exact Nat.le_trans hrun.length_le h

/-- A text of digits alone stops the reader if there are too many. -/
theorem parse_digits {ds : List Char} (hds : ∀ c ∈ ds, c.isDigit = true)
    (h : Numeral.maxDigits < ds.length + 1) :
    parse (String.ofList ('1' :: ds)) = .error (.tooManyDigits (ds.length + 1)) := by
  have hall : ∀ c ∈ '1' :: ds, c.isDigit = true := List.forall_mem_cons.mpr ⟨rfl, hds⟩
  have hdigits : Numeral.digits ('1' :: ds) = ('1' :: ds, []) := by
    rw [Numeral.digits, List.takeWhile_eq_self_iff.mpr hall, List.dropWhile_eq_nil_iff.mpr hall]
  have hnumber : readNumber ('1' :: ds) = .error (.digits (ds.length + 1)) := by
    simp [readNumber, wholeDigits, hdigits, fractionDigits, Numeral.fraction, exponentPart, h]
  have hword : readWord? ('1' :: ds) = none := rfl
  have hvalue (fuel : Nat) : readValue (fuel + 1) ('1' :: ds) = .error (.digits (ds.length + 1)) := by
    simp [readValue, hword, hnumber, Except.map]
  have hread : readAll ('1' :: ds) = .error (.digits (ds.length + 1)) := by
    have hspace : skipSpace ('1' :: ds) = '1' :: ds := rfl
    have hfuel : 2 * (('1' :: ds).length + 1) = 2 * ds.length + 3 + 1 := by
      rw [List.length_cons]
      omega
    simp only [readAll, hspace, hfuel, hvalue]
    rfl
  rw [parse, String.toList_ofList, hread]
  rfl

end ScreenDesign.Json
