import ScreenDesign.Proofs.Numbered
import ScreenDesign.Proofs.Dart.MentionsWidget
import ScreenDesign.Proofs.Dart.SoundProgram

/-!
# Declarations of state variables

The variable that a field declares is read off its source text, with what it starts with
(`declaredIn`).  It is the variable of the content that the field is made for, under the same
index (`declaredIn_stateField?`).

The name of a variable is one of a few stems with an index behind it, so variables of different
elements have different names (`index_eq_of_stateName?`).
-/

namespace ScreenDesign.Dart

open Layout

/-! ## Reading -/

/-- A state variable with what it starts with. -/
structure Declaration where
  name : String
  initial : Word
  deriving DecidableEq

/-- The variable that is declared with a type. -/
def declaration? : List Word → Option Declaration
  | [.name _, .name v, .sign '=', w, .sign ';'] => some ⟨String.ofList v, w⟩
  | [.name _, .sign '?', .name v, .sign '=', w, .sign ';'] => some ⟨String.ofList v, w⟩
  | _ => none

/-- The words of the source text of one layout. -/
def snippet (l : Layout) : List Word := words (sourceText [l])

/-- The variable that a field declares, if there is a field. -/
def declaredIn (field : Option Layout) : Option Declaration :=
  field.bind fun l => declaration? (snippet l)

/-! ## Names -/

/-- The stems of state variables. -/
def stems : List String := ["_switch", "_checkbox", "_dropdown"]

theorem stem_of_mem {stem : String} (h : stem ∈ stems) : Stem stem := by
  intro c hc
  simp only [stems, List.mem_cons, List.not_mem_nil, or_false] at h
  rcases h with rfl | rfl | rfl <;> cases hc <;> rfl

theorem exists_stem {index : Int} {c : Content} {v : String} (h : stateName? index c = some v) :
    ∃ stem ∈ stems, v = stem ++ decimalText index := by
  cases c with
  | choosable c =>
      rw [stateName?, stateOf?] at h
      split at h
      · obtain ⟨stem, hstem, rfl⟩ := Option.map_eq_some_iff.mp h
        refine ⟨stem, ?_, rfl⟩
        cases hcontrol : c.control with
        | toggle => rw [hcontrol] at hstem; cases hstem; decide
        | checkbox => rw [hcontrol] at hstem; cases hstem; decide
        | radio => rw [hcontrol] at hstem; cases hstem
      · cases h
  | dropdown d =>
      rw [stateName?, dropdownState?] at h
      split at h
      · cases h
        exact ⟨"_dropdown", by decide, rfl⟩
      · cases h
  | _ => cases h

theorem decimalText_natCast (i : Nat) : decimalText i = i.repr := by
  rw [decimalText, if_neg (by omega), Int.natAbs_natCast]

/-- Variables of different elements have different names. -/
theorem index_eq_of_stateName? {i j : Nat} {c d : Content} {v : String}
    (hc : stateName? i c = some v) (hd : stateName? j d = some v) : i = j := by
  obtain ⟨s, hs, rfl⟩ := exists_stem hc
  obtain ⟨t, ht, hsame⟩ := exists_stem hd
  rw [decimalText_natCast, decimalText_natCast] at hsame
  exact (Stem.append_repr_inj (stem_of_mem hs) (stem_of_mem ht) hsame).2

theorem stateName_of_index {i : Nat} {c : Content} {v : String} (h : stateName? i c = some v) :
    StateName v := by
  obtain ⟨stem, hstem, rfl⟩ := exists_stem h
  have hdigits : i.repr.toList.all isNamePart = true := by
    refine List.all_eq_true.mpr fun c hc => ?_
    simp [isNamePart, Text.isAlphanumeric, isDigit_of_mem_repr hc]
  rw [decimalText_natCast]
  simp only [stems, List.mem_cons, List.not_mem_nil, or_false] at hstem
  constructor
  · rw [String.toList_append, List.all_append, hdigits]
    rcases hstem with rfl | rfl | rfl <;> rfl
  · rw [String.toList_append]
    rcases hstem with rfl | rfl | rfl <;> rfl

/-! ## Fields -/

/-- The declaration of a content with an index. -/
def declarationOf (index : Int) (c : Content) : Option Declaration :=
  match c with
  | .choosable d => (stateOf? d index).map fun v => ⟨v, truthWord d.control.isOn⟩
  | .dropdown d => (dropdownState? d index).map fun v => ⟨v, selectionWord d⟩
  | _ => none

theorem name_declarationOf (index : Int) (c : Content) :
    (declarationOf index c).map Declaration.name = stateName? index c := by
  cases c with
  | choosable d => simp [declarationOf, stateName?, Function.comp_def]
  | dropdown d => simp [declarationOf, stateName?, Function.comp_def]
  | _ => rfl

theorem snippet_eq {l : Layout} (h : Sound false l) : snippet l = l.words := by
  have hrows : Each true [l] := ⟨h.allowed, trivial⟩
  rw [snippet, words_sourceText hrows.rows.fits, List.flatMap_singleton]

theorem rowWords_field {cs : List Char} (h : cs.getLast?.all (!isNamePart ·) = true) {v : String}
    (hv : StateName v) {t : Token} {w : Word} (ht : rowWords [t] = [w]) :
    rowWords [.code (String.ofList cs), .declared v, .code " = ", t, .code ";"] =
      textWords cs ++ [.name v.toList, .sign '=', w, .sign ';'] := by
  have hvalue : rowWords [.code " = ", t, .code ";"] = [.sign '=', w, .sign ';'] := by
    rw [rowWords_around rfl, ht]
    rfl
  have hname := rowWords_declared hv
  rw [rowWords, List.flatMap_singleton] at hname
  have hspaced : [Token.code (String.ofList cs), .declared v, .code " = ", t, .code ";"].flatMap
      Token.spaced = cs.map spacedChar ++
        ((Token.declared v).spaced ++ [Token.code " = ", t, .code ";"].flatMap Token.spaced) := by
    simp [Token.spaced, Token.text]
  have hblank : ∀ l ∈ ([Token.code " = ", t, .code ";"].flatMap Token.spaced).head?,
      l.isPart = false := by
    intro l hl
    cases hl
    rfl
  rw [rowWords, hspaced, text_wordsAfter h, wordsAfter_append hblank, hname, ← rowWords, hvalue]
  rfl

/-- A field with a type, with or without a question mark, declares its variable. -/
theorem declaration?_field {cs ty : List Char} (h : cs.getLast?.all (!isNamePart ·) = true)
    (hty : textWords cs = [.name ty] ∨ textWords cs = [.name ty, .sign '?']) {v : String}
    (hv : StateName v) {t : Token} {w : Word} (ht : rowWords [t] = [w])
    (hsound : Sound false
      (.line [.code (String.ofList cs), .declared v, .code " = ", t, .code ";"])) :
    declaration? (snippet (.line
      [.code (String.ofList cs), .declared v, .code " = ", t, .code ";"])) = some ⟨v, w⟩ := by
  have hread : declaration? (textWords cs ++ [.name v.toList, .sign '=', w, .sign ';']) =
      some ⟨String.ofList v.toList, w⟩ := by
    rcases hty with hty | hty <;> rw [hty] <;> rfl
  rw [snippet_eq hsound, words_line, rowWords_field h hv ht, hread, String.ofList_toList]

/-- A field declares the variable of its content, with what the content starts with. -/
theorem declaredIn_stateField? (i : Nat) (c : Content) :
    declaredIn (stateField? i c) = declarationOf i c := by
  have hname := @stateName_of_index i c
  have hsound := @sound_stateField? i c
  cases c with
  | choosable d =>
      rw [stateName?] at hname
      rw [stateField?] at hsound ⊢
      rw [declarationOf]
      cases hstate : stateOf? d i with
      | none => rfl
      | some v =>
          rw [hstate] at hname hsound
          rw [Option.map_some, Option.map_some, declaredIn, Option.bind_some]
          exact declaration?_field rfl (.inl rfl) (hname rfl) (rowWords_truth _) (hsound rfl)
  | dropdown d =>
      rw [stateName?] at hname
      rw [stateField?] at hsound ⊢
      rw [declarationOf]
      cases hstate : dropdownState? d i with
      | none => rfl
      | some v =>
          rw [hstate] at hname hsound
          rw [Option.map_some, Option.map_some, declaredIn, Option.bind_some]
          exact declaration?_field rfl (.inr rfl) (hname rfl) (rowWords_selection d) (hsound rfl)
  | _ => rfl

end ScreenDesign.Dart
