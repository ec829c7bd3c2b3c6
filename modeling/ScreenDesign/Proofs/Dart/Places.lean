import Mathlib.Data.List.Forall2
import ScreenDesign.Proofs.Dart.Rows

/-!
# Places in source text

A piece of source text stands in code if the scanner is in code where the piece
begins, and not inside of a literal or a remark.  Neighbouring tokens of a row stand
in code with all their text, wherever the row is in a layout (`inCode_of_infix`).
-/

namespace ScreenDesign.Dart

open Layout

/-- A piece that stands somewhere in a source text and begins in code. -/
def InCode (source piece : String) : Prop :=
  ∃ before after free ls, source.toList = before ++ (piece.toList ++ after) ∧
    run (.code true) before = some (.code free, ls)

/-- The text of neighbouring tokens. -/
def rowText (tokens : List Token) : String := String.ofList (rowChars tokens)

/-! ## Lines and rows -/

/-- A line that shows a row at some depth. -/
def ShowsRow (line : String) (row : List Token) : Prop := ∃ depth, line = lineText depth row

mutual

/-- The lines of a layout show its rows, one by one. -/
theorem showsRow_lines (depth : Nat) : ∀ l : Layout,
    List.Forall₂ ShowsRow (lines depth l) l.rows
  | .line tokens => .cons ⟨depth, rfl⟩ .nil
  | .block opening body closing => by
      have hclosing : List.Forall₂ ShowsRow [lineText depth closing] [closing] :=
        .cons ⟨depth, rfl⟩ .nil
      exact .cons ⟨depth, rfl⟩ (List.rel_append (showsRow_linesAll (depth + 1) body) hclosing)
termination_by structural l => l

theorem showsRow_linesAll (depth : Nat) : ∀ ls : List Layout,
    List.Forall₂ ShowsRow (linesAll depth ls) (rowsAll ls)
  | [] => .nil
  | l :: ls => List.rel_append (showsRow_lines depth l) (showsRow_linesAll depth ls)
termination_by structural ls => ls

end

/-! ## Tokens in code -/

theorem Fit.left {free : Bool} {ts us : List Token} (h : Fit free (ts ++ us)) : Fit free ts := by
  induction ts generalizing free with
  | nil => trivial
  | cons t ts ih => exact ⟨h.1, ih h.2⟩

/-- In front of neighbouring tokens of a line there is code. -/
theorem exists_in_line {line : String} {row tokens : List Token} (hline : ShowsRow line row)
    (hrow : Fit true row) (htokens : tokens <:+: row) (hne : tokens ≠ []) :
    ∃ before after free ls, line.toList = before ++ (rowChars tokens ++ after) ∧
      run (.code true) before = some (.code free, ls) := by
  obtain ⟨depth, rfl⟩ := hline
  obtain ⟨left, right, rfl⟩ := htokens
  rw [List.append_assoc] at hrow ⊢
  obtain ⟨free, hrun⟩ := run_fit hrow.left
  refine ⟨List.replicate (2 * depth) ' ' ++ rowChars left, rowChars right, free, rowLexemes left,
    ?_, run_spaces _ hrun⟩
  have hempty : (left ++ (tokens ++ right)).isEmpty = false := by
    simp [hne]
  simp [lineText, hempty, indent, rowChars, List.flatMap_map]

/-- In front of neighbouring tokens of a row there is code, also when lines come
before. -/
theorem exists_in_lines {lines : List String} {rows : List (List Token)} {row tokens : List Token}
    (hlines : List.Forall₂ ShowsRow lines rows) (hrows : ∀ r ∈ rows, IsRow true r)
    (hrow : row ∈ rows) (hfit : Fit true row) (htokens : tokens <:+: row) (hne : tokens ≠ []) :
    ∃ before after free ls, lineChars lines = before ++ (rowChars tokens ++ after) ∧
      run (.code true) before = some (.code free, ls) := by
  induction hlines with
  | nil => cases hrow
  | @cons line r lines rows hline hlines ih =>
      obtain ⟨hr, hrows⟩ := List.forall_mem_cons.mp hrows
      rcases List.mem_cons.mp hrow with rfl | hrow
      · obtain ⟨before, after, free, ls, hchars, hrun⟩ := exists_in_line hline hfit htokens hne
        refine ⟨before, after ++ '\n' :: lineChars lines, free, ls, ?_, hrun⟩
        simp [lineChars, hchars]
      · obtain ⟨before, after, free, ls, hchars, hrun⟩ := ih hrows hrow
        obtain ⟨depth, rfl⟩ := hline
        refine ⟨_, after, free, _, ?_, run_append (run_lineText depth hr) hrun⟩
        simp [lineChars, ← hchars]

/-- Neighbouring tokens of a row stand in code. -/
theorem inCode_of_infix {ls : List Layout} (hrows : ∀ r ∈ rowsAll ls, IsRow true r)
    {row tokens : List Token} (hrow : row ∈ rowsAll ls) (hfit : Fit true row)
    (htokens : tokens <:+: row) (hne : tokens ≠ []) :
    InCode (sourceText ls) (rowText tokens) := by
  have hlines := showsRow_linesAll 0 ls
  have hbreak : linesAll 0 ls ≠ [] := by
    intro hempty
    rw [hempty, List.forall₂_nil_left_iff] at hlines
    rw [hlines] at hrow
    cases hrow
  obtain ⟨before, after, free, lexemes, hchars, hrun⟩ :=
    exists_in_lines hlines hrows hrow hfit htokens hne
  refine ⟨before, after, free, lexemes, ?_, hrun⟩
  rw [sourceText, toList_intercalate_break hbreak, hchars, rowText, String.toList_ofList]

end ScreenDesign.Dart
