import Mathlib.Data.List.Nodup
import Mathlib.Data.List.TakeWhile
import ScreenDesign.Alignment

/-!
# Spellings of keywords

A keyword may be written with its letters in either case, with hyphens and underscores anywhere in
it and with blanks around it (`Spells`).  `foldKeyword` takes all that away, so it gives the same
for two keywords exactly if one spells the other (`foldKeyword_eq_iff`).

The letters of a keyword are plain: even in lower case none of them is a mark or a blank.  A family
of keywords with plain and different names is read by all their spellings, and nothing else names a
member (`knowsSpellings`).

Trimming is taken apart first: what it leaves is the text without two runs of blanks
(`exists_trimBy`), and around a text without blanks it finds just the blanks (`trimBy_padded`).
-/

namespace ScreenDesign

/-! ## Trimming -/

namespace Text

variable {p : Char → Bool}

theorem exists_trimBy (p : Char → Bool) (cs : List Char) :
    ∃ front back, cs = front ++ trimBy p cs ++ back ∧ (∀ c ∈ front, p c = true) ∧
      ∀ c ∈ back, p c = true := by
  refine ⟨cs.takeWhile p, ((cs.dropWhile p).reverse.takeWhile p).reverse, ?_, ?_, ?_⟩
  · have hback : trimBy p cs ++ ((cs.dropWhile p).reverse.takeWhile p).reverse =
        cs.dropWhile p := by
      rw [trimBy, ← List.reverse_append, List.takeWhile_append_dropWhile, List.reverse_reverse]
    rw [List.append_assoc, hback, List.takeWhile_append_dropWhile]
  · intro c hc
    exact List.mem_takeWhile_imp hc
  · intro c hc
    exact List.mem_takeWhile_imp (List.mem_reverse.mp hc)

theorem dropWhile_append_of_none {cs : List Char} (h : ∀ c ∈ cs, p c = false) {rest : List Char}
    (hrest : cs = [] → ∀ c ∈ rest, p c = true) :
    (cs ++ rest).dropWhile p = if cs = [] then [] else cs ++ rest := by
  cases cs with
  | nil => rw [if_pos rfl, List.nil_append, List.dropWhile_eq_nil_iff]; exact hrest rfl
  | cons c cs =>
      have hc : ¬p c = true := by rw [h c List.mem_cons_self]; exact Bool.false_ne_true
      rw [if_neg (List.cons_ne_nil c cs), List.cons_append, List.dropWhile_cons_of_neg hc]

/-- A text without blanks is what trimming leaves of it with blanks around. -/
theorem trimBy_padded {front cs back : List Char} (hfront : ∀ c ∈ front, p c = true)
    (h : ∀ c ∈ cs, p c = false) (hback : ∀ c ∈ back, p c = true) :
    trimBy p (front ++ cs ++ back) = cs := by
  have hbehind : ∀ c ∈ back.reverse, p c = true := fun c hc => hback c (List.mem_reverse.mp hc)
  have hkept : ∀ c ∈ cs.reverse, p c = false := fun c hc => h c (List.mem_reverse.mp hc)
  rw [trimBy, List.append_assoc, List.dropWhile_append_of_pos hfront,
    dropWhile_append_of_none h fun _ => hback]
  split
  case isTrue hnil => rw [hnil]; rfl
  case isFalse =>
      have hend := @dropWhile_append_of_none p cs.reverse hkept [] fun _ => List.forall_mem_nil _
      rw [List.append_nil] at hend
      rw [List.reverse_append, List.dropWhile_append_of_pos hbehind, hend]
      split
      case isTrue hnil => rw [← hnil, List.reverse_reverse]
      case isFalse => rw [List.reverse_reverse]

/-- No blank is a letter, so lower case leaves it as it is. -/
theorem toLower_of_isBlank {c : Char} (h : isBlank c = true) : c.toLower = c := by
  have hcapital : ¬('A'.val ≤ c.val ∧ c.val ≤ 'Z'.val) := by
    rintro ⟨hlow, hhigh⟩
    have hlow : 65 ≤ c.toNat := hlow
    have hhigh : c.toNat ≤ 90 := hhigh
    simp only [isBlank, isWhite, Bool.or_eq_true, Bool.and_eq_true, beq_iff_eq,
      decide_eq_true_eq] at h
    omega
  exact dif_neg hcapital

end Text

/-! ## Spellings -/

/-- The letters of a keyword with each of them in either case, and with hyphens and underscores
anywhere. -/
inductive Respelled : List Char → List Char → Prop
  | nil : Respelled [] []
  | letter {c d : Char} {cs ds : List Char} :
      d.toLower = c.toLower → Respelled cs ds → Respelled (c :: cs) (d :: ds)
  | hyphen {cs ds : List Char} : Respelled cs ds → Respelled cs ('-' :: ds)
  | underscore {cs ds : List Char} : Respelled cs ds → Respelled cs ('_' :: ds)

/-- A text that spells a keyword, with blanks around it. -/
def Spells (name s : String) : Prop :=
  ∃ front cs back, s.toList = front ++ cs ++ back ∧ (∀ c ∈ front, Text.isBlank c = true) ∧
    Respelled name.toList cs ∧ ∀ c ∈ back, Text.isBlank c = true

/-- A character that is no mark and no blank, even in lower case. -/
def isPlainLetter (c : Char) : Bool :=
  c.toLower ≠ '-' && c.toLower ≠ '_' && !Text.isBlank c.toLower

/-- A text without its marks, in lower case. -/
def unmarked (cs : List Char) : List Char :=
  (cs.filter fun c => c ≠ '-' && c ≠ '_').map Char.toLower

theorem unmarked_cons (c : Char) (cs : List Char) :
    unmarked (c :: cs) = if c ≠ '-' ∧ c ≠ '_' then c.toLower :: unmarked cs else unmarked cs := by
  rw [unmarked, List.filter_cons]
  by_cases hyphen : c = '-' <;> by_cases underscore : c = '_' <;>
    simp [unmarked, hyphen, underscore]

/-- A character with the lower case of a plain one is no mark and no blank. -/
theorem of_isPlainLetter {c d : Char} (hc : isPlainLetter c = true) (h : d.toLower = c.toLower) :
    (d ≠ '-' ∧ d ≠ '_') ∧ Text.isBlank d = false := by
  simp only [isPlainLetter, ← h, Bool.and_eq_true, decide_eq_true_eq, Bool.not_eq_true'] at hc
  obtain ⟨⟨hyphen, underscore⟩, hblank⟩ := hc
  refine ⟨⟨?_, ?_⟩, ?_⟩
  · rintro rfl
    exact hyphen rfl
  · rintro rfl
    exact underscore rfl
  · rw [Bool.eq_false_iff]
    intro hd
    rw [Text.toLower_of_isBlank hd, hd] at hblank
    cases hblank

section

variable {cs ds : List Char}

theorem unmarked_of_plain (h : ∀ c ∈ cs, isPlainLetter c = true) :
    unmarked cs = cs.map Char.toLower := by
  induction cs with
  | nil => rfl
  | cons c cs ih =>
      have hc := of_isPlainLetter (h c List.mem_cons_self) rfl
      rw [unmarked_cons, if_pos hc.1, ih fun d hd => h d (List.mem_cons_of_mem c hd), List.map_cons]

/-- Spellings are the texts that are the same without marks and in lower case. -/
theorem respelled_iff (h : ∀ c ∈ cs, isPlainLetter c = true) :
    Respelled cs ds ↔ unmarked ds = cs.map Char.toLower := by
  constructor
  · intro hrespelled
    induction hrespelled with
    | nil => rfl
    | @letter c d cs ds hcase _ ih =>
        have hd := of_isPlainLetter (h c List.mem_cons_self) hcase
        rw [unmarked_cons, if_pos hd.1, ih fun e he => h e (List.mem_cons_of_mem c he), hcase,
          List.map_cons]
    | hyphen _ ih => exact ih h
    | underscore _ ih => exact ih h
  · intro hsame
    induction ds generalizing cs with
    | nil =>
        cases cs with
        | nil => exact .nil
        | cons c cs => cases hsame
    | cons d ds ih =>
        rw [unmarked_cons] at hsame
        split at hsame
        case isTrue =>
            cases cs with
            | nil => cases hsame
            | cons c cs =>
                obtain ⟨hcase, hrest⟩ := List.cons.inj hsame
                exact .letter hcase (ih (fun e he => h e (List.mem_cons_of_mem c he)) hrest)
        case isFalse hmark =>
            by_cases hyphen : d = '-'
            · subst hyphen
              exact .hyphen (ih h hsame)
            · have underscore : d = '_' := by
                by_contra hne
                exact hmark ⟨hyphen, hne⟩
              subst underscore
              exact .underscore (ih h hsame)

theorem not_isBlank_of_respelled (h : ∀ c ∈ cs, isPlainLetter c = true) (hr : Respelled cs ds) :
    ∀ d ∈ ds, Text.isBlank d = false := by
  induction hr with
  | nil => exact List.forall_mem_nil _
  | @letter c d cs ds hcase _ ih =>
      rw [List.forall_mem_cons]
      constructor
      · exact (of_isPlainLetter (h c List.mem_cons_self) hcase).2
      · exact ih fun e he => h e (List.mem_cons_of_mem c he)
  | hyphen _ ih => exact List.forall_mem_cons.mpr ⟨by decide, ih h⟩
  | underscore _ ih => exact List.forall_mem_cons.mpr ⟨by decide, ih h⟩

end

theorem foldKeyword_of_plain {name : String} (h : ∀ c ∈ name.toList, isPlainLetter c = true) :
    foldKeyword name = name.toList.map Char.toLower := by
  have hblank : ∀ c ∈ name.toList, Text.isBlank c = false := fun c hc =>
    (of_isPlainLetter (h c hc) rfl).2
  have htrim := Text.trimBy_padded (List.forall_mem_nil _) hblank (List.forall_mem_nil _)
  rw [List.nil_append, List.append_nil] at htrim
  rw [foldKeyword, htrim]
  exact unmarked_of_plain h

/-- A text is known by the letters of a keyword exactly if it spells the keyword. -/
theorem foldKeyword_eq_iff {name s : String} (hall : name.toList.all isPlainLetter = true) :
    foldKeyword s = foldKeyword name ↔ Spells name s := by
  have h := List.all_eq_true.mp hall
  rw [foldKeyword_of_plain h]
  constructor
  · intro hsame
    obtain ⟨front, back, hs, hfront, hback⟩ := Text.exists_trimBy Text.isBlank s.toList
    exact ⟨front, _, back, hs, hfront, (respelled_iff h).mpr hsame, hback⟩
  · rintro ⟨front, cs, back, hs, hfront, hrespelled, hback⟩
    have htrim := Text.trimBy_padded hfront (not_isBlank_of_respelled h hrespelled) hback
    rw [foldKeyword, hs, htrim]
    exact (respelled_iff h).mp hrespelled

/-! ## Families -/

/-- A reader that knows the members of a family by every spelling of their names, and takes
everything else for one of them. -/
structure KnowsSpellings {α : Type} (name : α → String) (other : α) (read : Json → α) : Prop where
  spelled : ∀ m s, Spells (name m) s → read (.text s) = m
  unknown : ∀ j, (∀ m s, j = .text s → ¬Spells (name m) s) → read j = other

theorem knowsSpellings {α : Type} {members : List α} {name : α → String} (other : α)
    (hall : ∀ m, m ∈ members) (hplain : ∀ m ∈ members, (name m).toList.all isPlainLetter = true)
    (hdistinct : (members.map fun m => foldKeyword (name m)).Nodup) :
    KnowsSpellings name other fun j => (keyword? members name j).getD other := by
  have hiff (m : α) (s : String) : foldKeyword (name m) = foldKeyword s ↔ Spells (name m) s := by
    rw [eq_comm]
    exact foldKeyword_eq_iff (hplain m (hall m))
  constructor
  case spelled =>
    intro m s hspells
    have hm := (hiff m s).mpr hspells
    show ((members.find? fun m => foldKeyword (name m) = foldKeyword s).getD other) = m
    cases hfind : members.find? fun m => foldKeyword (name m) = foldKeyword s with
    | none => exact absurd (decide_eq_true hm) (List.find?_eq_none.mp hfind m (hall m))
    | some k =>
        have hk : foldKeyword (name k) = foldKeyword s := by simpa using List.find?_some hfind
        exact List.inj_on_of_nodup_map hdistinct (hall k) (hall m) (hk.trans hm.symm)
  case unknown =>
    intro j hunknown
    cases j with
    | text s =>
        have hnone : (members.find? fun m => foldKeyword (name m) = foldKeyword s) = none := by
          rw [List.find?_eq_none]
          intro m _ hm
          exact hunknown m s rfl ((hiff m s).mp (of_decide_eq_true hm))
        show ((members.find? fun m => foldKeyword (name m) = foldKeyword s).getD other) = other
        rw [hnone]
        rfl
    | _ => rfl

theorem MainAxis.knowsSpellings : KnowsSpellings MainAxis.name .atStart MainAxis.ofJson := by
  apply ScreenDesign.knowsSpellings
  · intro m
    cases m <;> decide
  · decide
  · decide

theorem CrossAxis.knowsSpellings : KnowsSpellings CrossAxis.name .atStart CrossAxis.ofJson := by
  apply ScreenDesign.knowsSpellings
  · intro m
    cases m <;> decide
  · decide
  · decide

theorem Anchor.knowsSpellings : KnowsSpellings Anchor.name .topLeft Anchor.ofJson := by
  apply ScreenDesign.knowsSpellings
  · intro m
    cases m <;> decide
  · decide
  · decide

end ScreenDesign
