import ScreenDesign.Dart.App
import ScreenDesign.Proofs.Dart.Scanning

/-!
# Rows of tokens

A layout has rows, and every row is a list of tokens.  A token says which lexemes
it should have: a literal is one literal with its text, a remark is one remark, and
all other tokens are code.

`IsRow` says when the tokens of a row can stand side by side: a literal comes where a
literal can start, a remark is a row of its own, and the text of any other token has
no quote and no slash.  The text of such rows then scans as what the tokens say,
row by row (`run_row`), layout by layout (`run_lines`) and for a whole source text
(`scan_sourceText`).
-/

namespace ScreenDesign.Dart

open Layout

/-! ## Tokens -/

/-- A character that is code and no bracket. -/
def isPlain (c : Char) : Bool := isInert c && !isBracket c

namespace Token

/-- The lexemes that a token should have. -/
def lexemes : Token → List Lexeme
  | .literal s => [.literal s]
  | .remark s => [.comment (" " ++ s)]
  | t => t.text.toList.flatMap charLexemes

/-- The brackets that a token should have.  A color is a call. -/
def brackets : Token → List Char
  | .code s => s.toList.filter isBracket
  | .color _ => ['(', ')']
  | _ => []

/-- Whether a token can stand in a row, where the flag says whether a literal can
start. -/
def Fits (free : Bool) : Token → Prop
  | .code s => s.toList.all isInert = true
  | .declared s | .icon s => s.toList.all isPlain = true
  | .number _ | .color _ => True
  | .literal _ => free = true
  | .remark _ => False

/-- Whether a literal can start behind a token. -/
def next (free : Bool) : Token → Bool
  | .literal _ => false
  | t => freesAfter free t.text.toList

theorem next_code (free : Bool) (s : String) :
    (code s).next free = freesAfter free s.toList := rfl

end Token

/-! ## Characters of code -/

theorem isPlain_of_isAlphanumeric {c : Char} (h : Text.isAlphanumeric c = true) :
    isPlain c = true := by
  simp only [isPlain, isInert, isBracket, Bool.and_eq_true, decide_eq_true_eq,
    Bool.not_eq_true', List.contains_eq_mem, decide_eq_false_iff_not, List.mem_cons,
    List.not_mem_nil, or_false]
  refine ⟨⟨⟨?_, ?_⟩, ?_⟩, ?_⟩
  · rintro rfl; revert h; decide
  · rintro rfl; revert h; decide
  · rintro rfl; revert h; decide
  · rintro (rfl | rfl | rfl | rfl | rfl | rfl) <;> (revert h; decide)

theorem isPlain_of_isDigit {c : Char} (h : c.isDigit = true) : isPlain c = true :=
  isPlain_of_isAlphanumeric (by simp [Text.isAlphanumeric, h])

theorem isInert_of_isPlain {c : Char} (h : isPlain c = true) : isInert c = true := by
  simp only [isPlain, Bool.and_eq_true] at h
  exact h.1

theorem all_isInert {cs : List Char} (h : cs.all isPlain = true) : cs.all isInert = true :=
  List.all_eq_true.mpr fun c hc => isInert_of_isPlain (List.all_eq_true.mp h c hc)

/-- Plain code has no brackets. -/
theorem filter_isBracket_of_plain {cs : List Char} (h : cs.all isPlain = true) :
    cs.filter isBracket = [] := by
  refine List.filter_eq_nil_iff.mpr fun c hc => ?_
  have := List.all_eq_true.mp h c hc
  simp only [isPlain, Bool.and_eq_true, Bool.not_eq_true'] at this
  simp [this.2]

theorem all_isPlain_toDigits (n : Nat) : (Nat.toDigits 10 n).all isPlain = true :=
  List.all_eq_true.mpr fun _ hc =>
    isPlain_of_isDigit (Nat.isDigit_of_mem_toDigits (by decide) (by decide) hc)

theorem all_isPlain_withSign (negative : Bool) {cs : List Char} (h : cs.all isPlain = true) :
    (Binary64.withSign negative cs).all isPlain = true := by
  cases negative with
  | false => exact h
  | true => exact Bool.and_eq_true_iff.mpr ⟨rfl, h⟩

/-- Numbers are plain code. -/
theorem all_isPlain_onePlace (x : Binary64) : x.onePlace.toList.all isPlain = true := by
  cases x with
  | finite negative rank =>
      rw [Binary64.onePlace, String.toList_ofList]
      refine all_isPlain_withSign negative ?_
      rw [List.all_append, List.all_cons, all_isPlain_toDigits, all_isPlain_toDigits]
      rfl
  | infinite negative =>
      have hname : Binary64.plainNames.infinite.toList.all isPlain = true := by decide
      simp only [Binary64.onePlace, Binary64.text, String.toList_ofList]
      exact all_isPlain_withSign negative hname
  | nan => decide

theorem isPlain_hexDigit : ∀ n : Fin 16, isPlain (Text.hexDigit n) = true := by decide

theorem all_isPlain_digits (c : Color) : c.digits.all isPlain = true := by
  simp [Color.digits, Color.channelDigits, isPlain_hexDigit]

theorem toList_color (c : Color) :
    (color c).toList =
      ['C', 'o', 'l', 'o', 'r', '(', '0', 'x', 'F', 'F'] ++ c.digits ++ [')'] := by
  simp [color]

theorem toList_icon (s : String) :
    (icon s).toList = ['I', 'c', 'o', 'n', 's', '.'] ++ s.toList := by
  simp [icon]

/-! ## Scanning a token -/

namespace Token

theorem all_isInert_text {t : Token} {free : Bool} (h : t.Fits free)
    (hliteral : ∀ s, t ≠ .literal s) : t.text.toList.all isInert = true := by
  cases t with
  | code s => exact h
  | declared s => exact all_isInert h
  | literal s => exact absurd rfl (hliteral s)
  | number x => exact all_isInert (all_isPlain_onePlace x)
  | color c =>
      rw [Token.text, toList_color, List.all_append, List.all_append,
        all_isInert (all_isPlain_digits c)]
      rfl
  | icon s =>
      rw [Token.text, toList_icon, List.all_append, all_isInert h]
      rfl
  | remark s => exact h.elim

/-- A token scans as its lexemes. -/
theorem run_text {t : Token} {free : Bool} (h : t.Fits free) :
    run (.code free) t.text.toList = some (.code (t.next free), t.lexemes) := by
  cases t with
  | literal s =>
      cases h
      rw [Token.text, Dart.literal, String.toList_ofList]
      exact run_literal s
  | remark s => exact h.elim
  | code s => exact run_inert free (all_isInert_text h nofun)
  | declared s => exact run_inert free (all_isInert_text h nofun)
  | number x => exact run_inert free (all_isInert_text h nofun)
  | color c => exact run_inert free (all_isInert_text h nofun)
  | icon s => exact run_inert free (all_isInert_text h nofun)

/-- The lexemes of a token have its brackets. -/
theorem codeBrackets_lexemes {t : Token} {free : Bool} (h : t.Fits free) :
    codeBrackets t.lexemes = t.brackets := by
  cases t with
  | literal s => rfl
  | remark s => rfl
  | code s => exact codeBrackets_flatMap _
  | declared s => exact (codeBrackets_flatMap _).trans (filter_isBracket_of_plain h)
  | number x =>
      exact (codeBrackets_flatMap _).trans (filter_isBracket_of_plain (all_isPlain_onePlace x))
  | color c =>
      refine (codeBrackets_flatMap _).trans ?_
      rw [text, toList_color, List.filter_append, List.filter_append,
        filter_isBracket_of_plain (all_isPlain_digits c)]
      rfl
  | icon s =>
      refine (codeBrackets_flatMap _).trans ?_
      rw [text, toList_icon, List.filter_append, filter_isBracket_of_plain h]
      rfl

end Token

/-! ## Rows -/

/-- The lexemes that a row should have. -/
def rowLexemes (tokens : List Token) : List Lexeme := tokens.flatMap Token.lexemes

/-- The brackets that a row should have. -/
def rowBrackets (tokens : List Token) : List Char := tokens.flatMap Token.brackets

theorem rowLexemes_append (ts us : List Token) :
    rowLexemes (ts ++ us) = rowLexemes ts ++ rowLexemes us := List.flatMap_append

theorem rowBrackets_append (ts us : List Token) :
    rowBrackets (ts ++ us) = rowBrackets ts ++ rowBrackets us := List.flatMap_append

theorem rowBrackets_code (s : String) : rowBrackets [.code s] = s.toList.filter isBracket :=
  List.flatMap_singleton ..

/-- Whether tokens can stand side by side, where the flag says whether a literal can
start. -/
def Fit : Bool → List Token → Prop
  | _, [] => True
  | free, t :: ts => t.Fits free ∧ Fit (t.next free) ts

/-- A text without line breaks. -/
def OneLine (s : String) : Prop := ∀ c ∈ s.toList, c ≠ '\n' ∧ c ≠ '\r'

/-- Tokens that can make up a row: tokens that can stand side by side, or a remark
where remarks are allowed. -/
def IsRow (remarks : Bool) (tokens : List Token) : Prop :=
  Fit true tokens ∨ (remarks = true ∧ ∃ s, tokens = [.remark s] ∧ OneLine s)

/-- The characters of a row. -/
def rowChars (tokens : List Token) : List Char := tokens.flatMap fun t => t.text.toList

theorem Fit.append {free : Bool} {ts us : List Token} (hts : Fit free ts)
    (hus : ∀ free, Fit free us) : Fit free (ts ++ us) := by
  induction ts generalizing free with
  | nil => exact hus free
  | cons t ts ih => exact ⟨hts.1, ih hts.2⟩

theorem run_fit {free : Bool} {ts : List Token} (h : Fit free ts) :
    ∃ after, run (.code free) (rowChars ts) = some (.code after, rowLexemes ts) := by
  induction ts generalizing free with
  | nil => exact ⟨free, rfl⟩
  | cons t ts ih =>
      obtain ⟨after, hrun⟩ := ih h.2
      exact ⟨after, run_append (Token.run_text h.1) hrun⟩

/-- A row scans, with its line break, as its lexemes. -/
theorem run_row {remarks : Bool} {ts : List Token} (h : IsRow remarks ts) :
    run (.code true) (rowChars ts ++ ['\n']) = some (.code true, rowLexemes ts) := by
  obtain hfit | ⟨-, s, rfl, hs⟩ := h
  · obtain ⟨after, hrun⟩ := run_fit hfit
    have hbreak : run (.code after) ['\n'] = some (.code true, []) := by
      cases after <;> rfl
    simpa using run_append hrun hbreak
  · have hspace : ∀ c ∈ ' ' :: s.toList, c ≠ '\n' ∧ c ≠ '\r' :=
      List.forall_mem_cons.mpr ⟨by decide, hs⟩
    have : run (.code true) _ = _ := run_remark hspace
    simpa [rowChars, rowLexemes, Token.text, Token.lexemes, String.ofList_cons] using this

/-- The lexemes of a row have its brackets. -/
theorem codeBrackets_rowLexemes {remarks : Bool} {ts : List Token} (h : IsRow remarks ts) :
    codeBrackets (rowLexemes ts) = rowBrackets ts := by
  obtain hfit | ⟨-, s, rfl, -⟩ := h
  · generalize true = free at hfit
    induction ts generalizing free with
    | nil => rfl
    | cons t ts ih =>
        rw [rowLexemes, List.flatMap_cons, codeBrackets_append, Token.codeBrackets_lexemes hfit.1]
        exact congrArg (t.brackets ++ ·) (ih _ hfit.2)
  · rfl

/-! ## Layouts -/

namespace Layout

mutual

/-- The rows of a layout. -/
def rows : Layout → List (List Token)
  | .line tokens => [tokens]
  | .block opening body closing => opening :: (rowsAll body ++ [closing])
termination_by structural l => l

/-- The rows of layouts that follow each other. -/
def rowsAll : List Layout → List (List Token)
  | [] => []
  | l :: ls => rows l ++ rowsAll ls
termination_by structural ls => ls

end

end Layout

/-- The characters of lines, each with its line break. -/
def lineChars (lines : List String) : List Char := lines.flatMap fun s => s.toList ++ ['\n']

theorem run_spaces (n : Nat) {cs : List Char} {last : Mode} {ls : List Lexeme}
    (h : run (.code true) cs = some (last, ls)) :
    run (.code true) (List.replicate n ' ' ++ cs) = some (last, ls) := by
  induction n with
  | zero => exact h
  | succ n ih =>
      have hstep : step (.code true) ' ' = some (.code true, []) := rfl
      exact run_cons hstep ih

/-- A line scans at every depth as the lexemes of its row. -/
theorem run_lineText (depth : Nat) {ts : List Token} (h : IsRow true ts) :
    run (.code true) ((lineText depth ts).toList ++ ['\n']) =
      some (.code true, rowLexemes ts) := by
  cases ts with
  | nil => rfl
  | cons t ts =>
      have := run_spaces (2 * depth) (run_row h)
      simpa [lineText, indent, rowChars, List.flatMap_map] using this

mutual

/-- A layout scans as the lexemes of its rows. -/
theorem run_lines (depth : Nat) : ∀ l : Layout, (∀ r ∈ l.rows, IsRow true r) →
    run (.code true) (lineChars (lines depth l)) =
      some (.code true, l.rows.flatMap rowLexemes)
  | .line tokens, h => by
      have := run_lineText depth (h tokens (List.mem_singleton.mpr rfl))
      simpa [lines, lineChars, Layout.rows] using this
  | .block opening body closing, h => by
      simp only [Layout.rows, List.forall_mem_cons, List.forall_mem_append] at h
      obtain ⟨hopening, hbody, hclosing, -⟩ := h
      have hend := run_append (run_linesAll (depth + 1) body hbody) (run_lineText depth hclosing)
      have := run_append (run_lineText depth hopening) hend
      simpa [lines, lineChars, Layout.rows] using this
termination_by structural l => l

/-- Layouts that follow each other scan one by one. -/
theorem run_linesAll (depth : Nat) : ∀ ls : List Layout, (∀ r ∈ rowsAll ls, IsRow true r) →
    run (.code true) (lineChars (linesAll depth ls)) =
      some (.code true, (rowsAll ls).flatMap rowLexemes)
  | [], _ => rfl
  | l :: ls, h => by
      simp only [rowsAll, List.forall_mem_append] at h
      have := run_append (run_lines depth l h.1) (run_linesAll depth ls h.2)
      simpa [linesAll, lineChars, rowsAll] using this
termination_by structural ls => ls

end

theorem rowsAll_eq (ls : List Layout) : rowsAll ls = ls.flatMap Layout.rows := by
  induction ls with
  | nil => rfl
  | cons l ls ih => rw [rowsAll, ih, List.flatMap_cons]

/-- The tokens of a layout, in order. -/
def Layout.tokens (l : Layout) : List Token := l.rows.flatten

@[simp] theorem tokens_line (ts : List Token) : (line ts).tokens = ts := by
  simp [tokens, Layout.rows]

theorem flatten_rowsAll (ls : List Layout) : (rowsAll ls).flatten = ls.flatMap tokens := by
  induction ls with
  | nil => rfl
  | cons l ls ih => rw [rowsAll, List.flatten_append, ih, List.flatMap_cons, tokens]

@[simp] theorem tokens_block (opening closing : List Token) (body : List Layout) :
    (Layout.block opening body closing).tokens = opening ++ (body.flatMap tokens ++ closing) := by
  simp [tokens, Layout.rows, flatten_rowsAll]

/-- The lexemes of layouts that follow each other. -/
def lexemes (ls : List Layout) : List Lexeme := (rowsAll ls).flatMap rowLexemes

/-- They are the lexemes of all tokens. -/
theorem lexemes_eq (ls : List Layout) : lexemes ls = rowLexemes (ls.flatMap tokens) := by
  rw [← flatten_rowsAll, rowLexemes, List.flatten_eq_flatMap, List.flatMap_assoc]
  rfl

/-- Every token of a layout comes with all its lexemes. -/
theorem mem_lexemes {ls : List Layout} {t : Token} {x : Lexeme} (ht : t ∈ ls.flatMap tokens)
    (hx : x ∈ t.lexemes) : x ∈ lexemes ls := by
  rw [lexemes_eq]
  exact List.mem_flatMap.mpr ⟨t, ht, hx⟩

/-- The brackets of a layout, in order. -/
def Layout.skeleton (l : Layout) : List Char := l.rows.flatMap rowBrackets

theorem toList_intercalate_break {lines : List String} (h : lines ≠ []) :
    ("\n".intercalate lines ++ "\n").toList = lineChars lines := by
  induction lines with
  | nil => exact absurd rfl h
  | cons l ls ih =>
      cases ls with
      | nil => simp [lineChars]
      | cons l' ls =>
          rw [String.intercalate_cons_cons, String.append_assoc, String.toList_append,
            ih (List.cons_ne_nil l' ls), String.toList_append]
          rfl

/-- Source text scans as the lexemes of its rows. -/
theorem scan_sourceText {ls : List Layout} (h : ∀ r ∈ rowsAll ls, IsRow true r) :
    scan (sourceText ls) = some (lexemes ls) := by
  have hrun := run_linesAll 0 ls h
  refine @scan_of_run _ true _ ?_
  rw [sourceText]
  by_cases hempty : linesAll 0 ls = []
  · rw [hempty] at hrun ⊢
    exact hrun
  · rw [toList_intercalate_break hempty, hrun, lexemes]

/-- The brackets of the lexemes are those of the rows. -/
theorem codeBrackets_lexemes {ls : List Layout} (h : ∀ r ∈ rowsAll ls, IsRow true r) :
    codeBrackets (lexemes ls) = (rowsAll ls).flatMap rowBrackets := by
  rw [lexemes]
  generalize rowsAll ls = rs at h ⊢
  induction rs with
  | nil => rfl
  | cons r rs ih =>
      obtain ⟨hr, hrs⟩ := List.forall_mem_cons.mp h
      rw [List.flatMap_cons, codeBrackets_append, codeBrackets_rowLexemes hr, ih hrs,
        List.flatMap_cons]

theorem flatMap_skeleton (ls : List Layout) :
    ls.flatMap Layout.skeleton = (rowsAll ls).flatMap rowBrackets := by
  rw [rowsAll_eq, List.flatMap_assoc]
  rfl

end ScreenDesign.Dart
