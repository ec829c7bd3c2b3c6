import ScreenDesign.Proofs.Dart.Sights
import ScreenDesign.Proofs.Dart.Tokens
import ScreenDesign.Proofs.Number.Text

/-!
# The words of source text

Source text falls into words: names, single signs and whole literals.  White space and remarks
only keep words apart.  Unlike the lexemes of `scan`, words tell `class A` from `classA`.  Names
that dots join are one word, so a name behind a dot is never taken for a name of its own.

The scanner gives the lexemes of a text with its white space (`spaced`), and `wordsAfter` puts
the characters of names together.  Words do not run over the end of a line, so the words of a
layout are those of its rows (`words_sourceText`).  Inside of a row they do not run over a place
with a sign, a blank or a literal on either side (`wordsAfter_append`).
-/

namespace ScreenDesign.Dart

open Layout

/-- A word of source text. -/
inductive Word where
  /-- A name, or names that dots join. -/
  | name (cs : List Char)
  /-- A single character that is no part of a name. -/
  | sign (c : Char)
  /-- A text literal, with the text that it stands for. -/
  | literal (s : String)
  deriving DecidableEq

/-- A character of a name, or a dot between names. -/
def isNamePart (c : Char) : Bool := Text.isAlphanumeric c || c = '_' || c = '.'

/-! ## Reading -/

/-- Whether the scanner is in code. -/
def Mode.isCode : Mode → Bool
  | .code _ => true
  | _ => false

/-- The lexemes of a text from a mode on.  White space in code is kept as blanks. -/
def spaced : Mode → List Char → List Lexeme
  | _, [] => []
  | m, c :: cs =>
      match step m c with
      | none => []
      | some (next, ls) => (if m.isCode && isSpace c then [.code ' '] else ls) ++ spaced next cs

/-- The word that an open name makes up. -/
def closeName (begun : List Char) : List Word := if begun.isEmpty then [] else [.name begun]

/-- The word that is a single sign. -/
def signWord (c : Char) : List Word := if c = ' ' then [] else [.sign c]

/-- The words of lexemes, behind the part of a name that was read before. -/
def wordsAfter (begun : List Char) : List Lexeme → List Word
  | [] => closeName begun
  | .code c :: ls =>
      if isNamePart c then wordsAfter (begun ++ [c]) ls
      else closeName begun ++ (signWord c ++ wordsAfter [] ls)
  | .literal s :: ls => closeName begun ++ .literal s :: wordsAfter [] ls
  | .comment _ :: ls => closeName begun ++ wordsAfter [] ls

/-- The words of source text. -/
def words (s : String) : List Word := wordsAfter [] (spaced (.code true) s.toList)

/-! ## Where words end -/

/-- Whether a lexeme is part of a name. -/
def Lexeme.isPart : Lexeme → Bool
  | .code c => isNamePart c
  | _ => false

/-- A name ends in front of a lexeme that is no part of one. -/
theorem wordsAfter_closed {l : Lexeme} (h : l.isPart = false) (begun : List Char)
    (ls : List Lexeme) :
    wordsAfter begun (l :: ls) = closeName begun ++ wordsAfter [] (l :: ls) := by
  cases l with
  | code c =>
      have hc : ¬ isNamePart c = true := Bool.not_eq_true _ ▸ h
      rw [wordsAfter, wordsAfter, if_neg hc, if_neg hc]
      rfl
  | literal s => rfl
  | comment s => rfl

theorem wordsAfter_cons {l : Lexeme} (h : l.isPart = false) (ls : List Lexeme) :
    wordsAfter [] (l :: ls) = wordsAfter [] [l] ++ wordsAfter [] ls := by
  cases l with
  | code c =>
      have hc : ¬ isNamePart c = true := Bool.not_eq_true _ ▸ h
      rw [wordsAfter, wordsAfter, if_neg hc, if_neg hc, List.append_assoc, List.append_assoc]
      rfl
  | literal s => rfl
  | comment s => rfl

/-- Words do not run over a place with a lexeme behind it that is no part of a name. -/
theorem wordsAfter_append {ms : List Lexeme} (h : ∀ l ∈ ms.head?, l.isPart = false)
    (begun : List Char) (ls : List Lexeme) :
    wordsAfter begun (ls ++ ms) = wordsAfter begun ls ++ wordsAfter [] ms := by
  induction ls generalizing begun with
  | nil =>
      cases ms with
      | nil => exact (List.append_nil _).symm
      | cons l ms => exact wordsAfter_closed (h l rfl) begun ms
  | cons l ls ih =>
      cases l with
      | code c =>
          rw [List.cons_append, wordsAfter, wordsAfter]
          split
          · exact ih _
          · rw [ih, List.append_assoc, List.append_assoc]
      | literal s =>
          rw [List.cons_append, wordsAfter, wordsAfter, ih, List.append_assoc]
          rfl
      | comment s => rw [List.cons_append, wordsAfter, wordsAfter, ih, List.append_assoc]

/-- Nor over a place with such a lexeme in front of it. -/
theorem wordsAfter_concat {l : Lexeme} (h : l.isPart = false) (begun : List Char)
    (ls ms : List Lexeme) :
    wordsAfter begun (ls ++ l :: ms) = wordsAfter begun (ls ++ [l]) ++ wordsAfter [] ms := by
  have hhead : ∀ x ∈ (l :: ms).head?, x.isPart = false := by
    intro x hx
    cases hx
    exact h
  have hlast : ∀ x ∈ [l].head?, x.isPart = false := by
    intro x hx
    cases hx
    exact h
  rw [wordsAfter_append hhead, wordsAfter_append hlast, wordsAfter_cons h, List.append_assoc]

/-! ## Tokens -/

/-- A character of code with its white space as a blank. -/
def spacedChar (c : Char) : Lexeme := .code (if isSpace c then ' ' else c)

/-- The lexemes that a token should have, with its white space.  A remark is none. -/
def Token.spaced : Token → List Lexeme
  | .literal s => [.literal s]
  | .remark _ => []
  | t => t.text.toList.map spacedChar

theorem spaced_append {m next : Mode} {cs ds : List Char} {ls : List Lexeme}
    (h : run m cs = some (next, ls)) : spaced m (cs ++ ds) = spaced m cs ++ spaced next ds := by
  induction cs generalizing m ls with
  | nil =>
      cases h
      rfl
  | cons c cs ih =>
      simp only [run] at h
      split at h
      · cases h
      · rename_i mid here hstep
        obtain ⟨⟨last, later⟩, hrun, heq⟩ := Option.map_eq_some_iff.mp h
        cases heq
        simp only [List.cons_append, spaced, hstep, ih hrun, List.append_assoc]

theorem spaced_inert (free : Bool) {cs : List Char} (h : cs.all isInert = true) :
    spaced (.code free) cs = cs.map spacedChar := by
  induction cs generalizing free with
  | nil => rfl
  | cons c cs ih =>
      rw [List.all_cons, Bool.and_eq_true] at h
      have hstep : step (.code free) c = some (.code (frees c), charLexemes c) := by
        have hc := h.1
        simp only [isInert, Bool.and_eq_true, decide_eq_true_eq] at hc
        simp [step, enter, hc]
      rw [spaced, hstep, List.map_cons, ← ih (frees c) h.2, spacedChar, charLexemes]
      cases isSpace c <;> rfl

/-- Whether the scanner is inside of a literal. -/
def Mode.inLiteral : Mode → Bool
  | .literal _ | .escape _ => true
  | _ => false

/-- A text inside of a literal has no lexemes of its own. -/
theorem spaced_inLiteral {m next : Mode} {cs : List Char} (hm : m.inLiteral = true)
    (h : run m cs = some (next, [])) : spaced m cs = [] := by
  induction cs generalizing m with
  | nil => rfl
  | cons c cs ih =>
      simp only [run] at h
      split at h
      · cases h
      · rename_i mid here hstep
        obtain ⟨⟨last, later⟩, hrun, heq⟩ := Option.map_eq_some_iff.mp h
        obtain ⟨rfl, hnone⟩ := Prod.mk.inj heq
        obtain ⟨rfl, rfl⟩ := List.append_eq_nil_iff.mp hnone
        have hmid : mid.inLiteral = true := by
          cases m with
          | literal read =>
              simp only [step] at hstep
              split at hstep
              · cases hstep
              split at hstep
              · cases hstep; rfl
              split at hstep
              · cases hstep
              · cases hstep; rfl
          | escape read =>
              obtain ⟨d, -, heq⟩ := Option.map_eq_some_iff.mp hstep
              cases heq
              rfl
          | code free => cases hm
          | slash => cases hm
          | comment read => cases hm
        have hcode : m.isCode = false := by
          cases m with
          | literal read => rfl
          | escape read => rfl
          | code free => cases hm
          | slash => cases hm
          | comment read => cases hm
        simp only [spaced, hstep, hcode, ih hmid hrun]
        rfl

theorem spaced_literal (s : String) : spaced (.code true) (literalChars s) = [.literal s] := by
  have hrun := run_flatMap_escaped [] s.toList
  have hclose : spaced (.literal s.toList) ['\x27'] = [.literal s] := by
    simp [spaced, step, Mode.isCode]
  have hopen : spaced (.code true) (literalChars s) =
      spaced (.literal []) (s.toList.flatMap escaped ++ ['\x27']) := rfl
  rw [hopen, spaced_append hrun, spaced_inLiteral rfl hrun]
  exact hclose

/-- A token has its lexemes. -/
theorem Token.spaced_text {t : Token} {free : Bool} (h : t.Fits free) :
    Dart.spaced (.code free) t.text.toList = t.spaced := by
  cases t with
  | literal s =>
      cases h
      rw [Token.text, Dart.literal, String.toList_ofList]
      exact spaced_literal s
  | remark s => exact h.elim
  | code s => exact spaced_inert free (all_isInert_text h (by simp))
  | declared s => exact spaced_inert free (all_isInert_text h (by simp))
  | number x => exact spaced_inert free (all_isInert_text h (by simp))
  | color c => exact spaced_inert free (all_isInert_text h (by simp))
  | icon s => exact spaced_inert free (all_isInert_text h (by simp))

theorem spaced_fit {free : Bool} {ts : List Token} (h : Fit free ts) :
    spaced (.code free) (rowChars ts) = ts.flatMap Token.spaced := by
  induction ts generalizing free with
  | nil => rfl
  | cons t ts ih =>
      have hchars : rowChars (t :: ts) = t.text.toList ++ rowChars ts := rfl
      rw [hchars, spaced_append (Token.run_text h.1), Token.spaced_text h.1, ih h.2,
        List.flatMap_cons]

/-! ## Rows and layouts -/

/-- The words of a row. -/
def rowWords (ts : List Token) : List Word := wordsAfter [] (ts.flatMap Token.spaced)

/-- The words of a layout. -/
def Layout.words (l : Layout) : List Word := l.rows.flatMap rowWords

/-- The words of a row end with its line. -/
theorem words_row {ts : List Token} (h : IsRow true ts) (ds : List Char) :
    wordsAfter [] (spaced (.code true) (rowChars ts ++ '\n' :: ds)) =
      rowWords ts ++ wordsAfter [] (spaced (.code true) ds) := by
  obtain hfit | ⟨-, s, rfl, hs⟩ := h
  · obtain ⟨after, hrun⟩ := run_fit hfit
    have hbreak : spaced (.code after) ('\n' :: ds) = .code ' ' :: spaced (.code true) ds := by
      cases after <;> rfl
    rw [spaced_append hrun, spaced_fit hfit, hbreak, wordsAfter_append]
    · rfl
    · intro l hl
      cases hl
      rfl
  · have hspace : ∀ c ∈ ' ' :: s.toList, c ≠ '\n' ∧ c ≠ '\r' :=
      List.forall_mem_cons.mpr ⟨by decide, hs⟩
    have hinside : ∀ (cs read : List Char), (∀ c ∈ cs, c ≠ '\n' ∧ c ≠ '\r') →
        wordsAfter [] (spaced (.comment read) (cs ++ '\n' :: ds)) =
          wordsAfter [] (spaced (.code true) ds) := by
      intro cs
      induction cs with
      | nil => exact fun _ _ => rfl
      | cons c cs ih =>
          intro read hcs
          obtain ⟨hc, hcs⟩ := List.forall_mem_cons.mp hcs
          have hstep : step (.comment read) c = some (.comment (read ++ [c]), []) := by
            simp [step, hc]
          simp only [List.cons_append, spaced, hstep]
          exact ih (read ++ [c]) hcs
    have hchars : rowChars [.remark s] ++ '\n' :: ds =
        '/' :: '/' :: (' ' :: s.toList ++ '\n' :: ds) := by
      simp [rowChars, Token.text]
    rw [hchars]
    exact hinside _ [] hspace

theorem words_spaces (n : Nat) (cs : List Char) :
    wordsAfter [] (spaced (.code true) (List.replicate n ' ' ++ cs)) =
      wordsAfter [] (spaced (.code true) cs) := by
  induction n with
  | zero => rfl
  | succ n ih => exact ih

theorem words_lineText (depth : Nat) {ts : List Token} (h : IsRow true ts) (ds : List Char) :
    wordsAfter [] (spaced (.code true) ((lineText depth ts).toList ++ '\n' :: ds)) =
      rowWords ts ++ wordsAfter [] (spaced (.code true) ds) := by
  cases ts with
  | nil => rfl
  | cons t ts =>
      have hchars : (lineText depth (t :: ts)).toList =
          List.replicate (2 * depth) ' ' ++ rowChars (t :: ts) := by
        simp [lineText, indent, rowChars, List.flatMap_map]
      rw [hchars, List.append_assoc, words_spaces, words_row h]

mutual

/-- The words of the lines of a layout are those of its rows. -/
theorem words_lines (depth : Nat) : ∀ l : Layout, (∀ r ∈ l.rows, IsRow true r) →
    ∀ ds, wordsAfter [] (spaced (.code true) (lineChars (lines depth l) ++ ds)) =
      l.words ++ wordsAfter [] (spaced (.code true) ds)
  | .line tokens, h, ds => by
      have := words_lineText depth (h tokens (List.mem_singleton.mpr rfl)) ds
      simpa [lines, lineChars, Layout.words, Layout.rows] using this
  | .block opening body closing, h, ds => by
      simp only [Layout.rows, List.forall_mem_cons, List.forall_mem_append] at h
      obtain ⟨hopening, hbody, hclosing, -⟩ := h
      have hlines : lineChars (lines depth (.block opening body closing)) ++ ds =
          (lineText depth opening).toList ++ '\n' ::
            (lineChars (linesAll (depth + 1) body) ++
              ((lineText depth closing).toList ++ '\n' :: ds)) := by
        simp [lines, lineChars]
      rw [hlines, words_lineText depth hopening, words_linesAll (depth + 1) body hbody,
        words_lineText depth hclosing]
      simp [Layout.words, Layout.rows, rowsAll_eq, List.flatMap_assoc]
      rfl
termination_by structural l => l

theorem words_linesAll (depth : Nat) : ∀ ls : List Layout, (∀ r ∈ rowsAll ls, IsRow true r) →
    ∀ ds, wordsAfter [] (spaced (.code true) (lineChars (linesAll depth ls) ++ ds)) =
      ls.flatMap Layout.words ++ wordsAfter [] (spaced (.code true) ds)
  | [], _, _ => rfl
  | l :: ls, h, ds => by
      simp only [rowsAll, List.forall_mem_append] at h
      have hlines : lineChars (linesAll depth (l :: ls)) ++ ds =
          lineChars (lines depth l) ++ (lineChars (linesAll depth ls) ++ ds) := by
        simp [linesAll, lineChars]
      rw [hlines, words_lines depth l h.1, words_linesAll depth ls h.2, List.flatMap_cons,
        List.append_assoc]
termination_by structural ls => ls

end

/-- The words of source text are those of its layouts. -/
theorem words_sourceText {ls : List Layout} (h : ∀ r ∈ rowsAll ls, IsRow true r) :
    words (sourceText ls) = ls.flatMap Layout.words := by
  have hwords := words_linesAll 0 ls h []
  rw [List.append_nil] at hwords
  rw [words, sourceText]
  by_cases hempty : linesAll 0 ls = []
  · rw [hempty] at hwords ⊢
    exact hwords.trans (List.append_nil _)
  · rw [toList_intercalate_break hempty, hwords]
    exact List.append_nil _

end ScreenDesign.Dart
