import ScreenDesign.Dart.Literal

/-!
# Scanning Dart source

A scanner cuts source text into lexemes: the characters of code, whole text
literals and whole remarks.  It follows the rules for literals in single quotes
and for remarks behind two slashes.

* A literal ends at the next quote without a backslash in front of it.  A line
  break or a bare dollar sign in a literal is refused, and so is the end of the
  text.
* A remark ends with its line.
* Quotes that start any other kind of literal are refused: double quotes, a quote
  right behind a letter or digit, as in a raw literal, and a quote right behind a
  literal, as in a literal of several lines.  A remark between slash and star is
  refused too.

The scanner is a machine with a mode, and `run` takes it through a text.  A text
that falls into two parts is scanned part by part (`run_append`).  What `literal`
writes scans as one literal with the given text (`run_literal`), so it tells its text
(`literal_injective`).

Brackets in code are matched on a stack (`nest`).
-/

namespace ScreenDesign.Dart

inductive Lexeme where
  /-- A character of code that is no white space. -/
  | code (c : Char)
  /-- A text literal, with the text that it stands for. -/
  | literal (s : String)
  /-- A remark, with what is behind the slashes. -/
  | comment (s : String)
  deriving DecidableEq

/-- What the scanner is inside of. -/
inductive Mode where
  /-- Code.  The flag says whether a literal can start here. -/
  | code (free : Bool)
  /-- Code right behind a slash. -/
  | slash
  /-- A literal, with the text so far. -/
  | literal (read : List Char)
  /-- A literal right behind a backslash, with the text so far. -/
  | escape (read : List Char)
  /-- A remark, with what was read so far. -/
  | comment (read : List Char)
  deriving DecidableEq

/-! ## The scanner -/

/-- White space between lexemes. -/
def isSpace (c : Char) : Bool := c = ' ' || c = '\n' || c = '\r' || c = '\t'

/-- Whether a literal can start behind a character of code. -/
def frees (c : Char) : Bool := !Text.isAlphanumeric c

/-- The lexeme of a character of code. -/
def charLexemes (c : Char) : List Lexeme := if isSpace c then [] else [.code c]

/-- A step in code. -/
def enter (free : Bool) (c : Char) : Option (Mode × List Lexeme) :=
  if c = '\x27' then if free then some (.literal [], []) else none
  else if c = '"' then none
  else if c = '/' then some (.slash, [])
  else some (.code (frees c), charLexemes c)

/-- The character that an escape stands for, if it has a single letter. -/
def unescape? (c : Char) : Option Char :=
  if c = 'n' then some '\n'
  else if c = 'r' then some '\r'
  else if c = 't' then some '\t'
  else if c = 'b' then some '\x08'
  else if c = 'f' then some '\x0c'
  else if c = 'v' then some '\x0b'
  else if c = 'x' ∨ c = 'u' ∨ c = '\n' ∨ c = '\r' then none
  else some c

/-- One step of the scanner: the next mode and the lexemes that are complete. -/
def step : Mode → Char → Option (Mode × List Lexeme)
  | .code free, c => enter free c
  | .slash, c =>
      if c = '/' then some (.comment [], [])
      else if c = '*' then none
      else (enter true c).map fun (m, ls) => (m, .code '/' :: ls)
  | .literal read, c =>
      if c = '\x27' then some (.code false, [.literal (String.ofList read)])
      else if c = '\\' then some (.escape read, [])
      else if c = '$' ∨ c = '\n' ∨ c = '\r' then none
      else some (.literal (read ++ [c]), [])
  | .escape read, c => (unescape? c).map fun c => (.literal (read ++ [c]), [])
  | .comment read, c =>
      if c = '\n' ∨ c = '\r' then some (.code true, [.comment (String.ofList read)])
      else some (.comment (read ++ [c]), [])

/-- The scanner on a text, from a mode. -/
def run : Mode → List Char → Option (Mode × List Lexeme)
  | m, [] => some (m, [])
  | m, c :: cs =>
      match step m c with
      | none => none
      | some (next, ls) => (run next cs).map fun (last, rest) => (last, ls ++ rest)

/-- What is complete when the text ends.  A literal must not be open then. -/
def finish : Mode → Option (List Lexeme)
  | .code _ => some []
  | .slash => some [.code '/']
  | .literal _ | .escape _ => none
  | .comment read => some [.comment (String.ofList read)]

/-- The lexemes of a text. -/
def scan (s : String) : Option (List Lexeme) :=
  match run (.code true) s.toList with
  | none => none
  | some (last, ls) => (finish last).map (ls ++ ·)

/-! ## Runs -/

@[simp] theorem run_nil (m : Mode) : run m [] = some (m, []) := rfl

theorem run_cons {m next last : Mode} {c : Char} {cs : List Char} {ls rest : List Lexeme}
    (h : step m c = some (next, ls)) (hcs : run next cs = some (last, rest)) :
    run m (c :: cs) = some (last, ls ++ rest) := by
  simp only [run, h, hcs, Option.map_some]

/-- The scanner works on a text part by part. -/
theorem run_append {m next last : Mode} {cs ds : List Char} {ls rest : List Lexeme}
    (h : run m cs = some (next, ls)) (hds : run next ds = some (last, rest)) :
    run m (cs ++ ds) = some (last, ls ++ rest) := by
  induction cs generalizing m ls with
  | nil =>
      cases h
      exact hds
  | cons c cs ih =>
      simp only [run] at h
      split at h
      · cases h
      · rename_i mid here hstep
        obtain ⟨⟨_, later⟩, hrun, heq⟩ := Option.map_eq_some_iff.mp h
        cases heq
        rw [List.cons_append, List.append_assoc]
        exact run_cons hstep (ih hrun)

/-- A text that scans to its end, outside a literal and a remark, has the lexemes of
its run. -/
theorem scan_of_run {s : String} {free : Bool} {ls : List Lexeme}
    (h : run (.code true) s.toList = some (.code free, ls)) : scan s = some ls := by
  simp [scan, h, finish]

/-! ## Literals and remarks -/

/-- The scanner reads an escaped character of a literal back. -/
theorem run_escaped (read : List Char) (c : Char) :
    run (.literal read) (escaped c) = some (.literal (read ++ [c]), []) := by
  simp only [escaped]
  split
  · subst c; simp [run, step, unescape?]
  split
  · subst c; simp [run, step, unescape?]
  split
  · subst c; simp [run, step, unescape?]
  split
  · subst c; simp [run, step, unescape?]
  split
  · subst c; simp [run, step, unescape?]
  split
  · subst c; simp [run, step, unescape?]
  simp [run, step, *]

theorem run_flatMap_escaped (read cs : List Char) :
    run (.literal read) (cs.flatMap escaped) = some (.literal (read ++ cs), []) := by
  induction cs generalizing read with
  | nil => simp
  | cons c cs ih =>
      rw [List.flatMap_cons]
      have := run_append (run_escaped read c) (ih (read ++ [c]))
      rwa [List.append_assoc] at this

/-- What `literal` writes is one literal with the given text. -/
theorem run_literal (s : String) :
    run (.code true) (literalChars s) = some (.code false, [.literal s]) := by
  have hopen : step (.code true) '\x27' = some (.literal [], []) := rfl
  have hclose : run (.literal s.toList) ['\x27'] = some (.code false, [.literal s]) := by
    simp [run, step]
  exact run_cons hopen (run_append (run_flatMap_escaped [] s.toList) hclose)

example : scan (literal "it's $5\n") = some [.literal "it's $5\n"] := by decide

/-- A literal tells its text. -/
theorem literal_injective : Function.Injective literal := by
  intro a b h
  have hrun : run (.code true) (literalChars a) = run (.code true) (literalChars b) :=
    congrArg (run (.code true)) (String.ofList_injective h)
  rw [run_literal, run_literal] at hrun
  injection hrun with hrun
  injection hrun with _ hrun
  injection hrun with hrun
  exact Lexeme.literal.inj hrun

theorem run_comment {read cs : List Char} (h : ∀ c ∈ cs, c ≠ '\n' ∧ c ≠ '\r') :
    run (.comment read) cs = some (.comment (read ++ cs), []) := by
  induction cs generalizing read with
  | nil => simp
  | cons c cs ih =>
      obtain ⟨hc, hcs⟩ := List.forall_mem_cons.mp h
      have hstep : step (.comment read) c = some (.comment (read ++ [c]), []) := by
        simp [step, hc]
      have := run_cons hstep (ih hcs)
      rwa [List.append_assoc] at this

/-- A line of a remark is one remark. -/
theorem run_remark {free : Bool} {cs : List Char} (h : ∀ c ∈ cs, c ≠ '\n' ∧ c ≠ '\r') :
    run (.code free) ('/' :: '/' :: (cs ++ ['\n'])) =
      some (.code true, [.comment (String.ofList cs)]) := by
  have hfirst : step (.code free) '/' = some (.slash, []) := by simp [step, enter]
  have hsecond : step .slash '/' = some (.comment [], []) := by simp [step]
  have hend : run (.comment cs) ['\n'] = some (.code true, [.comment (String.ofList cs)]) := by
    simp [run, step]
  exact run_cons hfirst (run_cons hsecond (run_append (run_comment h) hend))

/-! ## Code -/

/-- A character that starts no literal and no remark. -/
def isInert (c : Char) : Bool := c ≠ '\x27' && c ≠ '"' && c ≠ '/'

/-- Whether a literal can start behind a run of code. -/
def freesAfter (free : Bool) (cs : List Char) : Bool := (cs.getLast?.map frees).getD free

theorem freesAfter_cons (free : Bool) (c : Char) (cs : List Char) :
    freesAfter free (c :: cs) = freesAfter (frees c) cs := by
  cases cs with
  | nil => rfl
  | cons d ds => simp [freesAfter, List.getLast?_cons]

/-- Code without quotes and slashes scans as its characters. -/
theorem run_inert (free : Bool) {cs : List Char} (h : cs.all isInert = true) :
    run (.code free) cs = some (.code (freesAfter free cs), cs.flatMap charLexemes) := by
  induction cs generalizing free with
  | nil => rfl
  | cons c cs ih =>
      simp only [List.all_cons, Bool.and_eq_true] at h
      have hstep : step (.code free) c = some (.code (frees c), charLexemes c) := by
        have hc := h.1
        simp only [isInert, Bool.and_eq_true, decide_eq_true_eq] at hc
        simp [step, enter, hc]
      rw [freesAfter_cons]
      exact run_cons hstep (ih (frees c) h.2)

/-! ## Brackets -/

/-- Whether a character is a bracket. -/
def isBracket (c : Char) : Bool := ['(', ')', '[', ']', '\x7b', '\x7d'].contains c

/-- The bracket that closes a bracket. -/
def closing? (c : Char) : Option Char :=
  if c = '(' then some ')'
  else if c = '[' then some ']'
  else if c = '\x7b' then some '\x7d'
  else none

/-- The brackets of code, outside literals and remarks. -/
def codeBrackets : List Lexeme → List Char
  | [] => []
  | .code c :: ls => if isBracket c then c :: codeBrackets ls else codeBrackets ls
  | .literal _ :: ls | .comment _ :: ls => codeBrackets ls

/-- Matches brackets on a stack of those that must be closed, the innermost first.
An opening bracket is put on the stack as the one that closes it. -/
def nest : List Char → List Char → Option (List Char)
  | stack, [] => some stack
  | stack, c :: cs =>
      match closing? c, stack with
      | some d, stack => nest (d :: stack) cs
      | none, d :: stack => if c = d then nest stack cs else none
      | none, [] => none

theorem codeBrackets_append (ls ms : List Lexeme) :
    codeBrackets (ls ++ ms) = codeBrackets ls ++ codeBrackets ms := by
  induction ls with
  | nil => rfl
  | cons l ls ih =>
      cases l with
      | code c =>
          simp only [List.cons_append, codeBrackets, ih]
          split <;> rfl
      | literal s => exact ih
      | comment s => exact ih

/-- Code keeps its brackets, since none of them is white space. -/
theorem codeBrackets_flatMap (cs : List Char) :
    codeBrackets (cs.flatMap charLexemes) = cs.filter isBracket := by
  induction cs with
  | nil => rfl
  | cons c cs ih =>
      rw [List.flatMap_cons, codeBrackets_append, ih]
      by_cases hs : isSpace c = true
      · have hc : isBracket c = false := by
          simp only [isSpace, Bool.or_eq_true, decide_eq_true_eq] at hs
          obtain ((rfl | rfl) | rfl) | rfl := hs <;> rfl
        simp [charLexemes, hs, codeBrackets, hc]
      · by_cases hc : isBracket c = true <;> simp [charLexemes, hs, codeBrackets, hc]

theorem nest_append (stack cs ds : List Char) :
    nest stack (cs ++ ds) = (nest stack cs).bind fun stack => nest stack ds := by
  induction cs generalizing stack with
  | nil => rfl
  | cons c cs ih =>
      simp only [List.cons_append, nest]
      split
      · exact ih _
      · split
        · exact ih _
        · rfl
      · rfl

/-- Brackets that can be matched can be matched above anything. -/
theorem nest_above {stack last cs : List Char} (below : List Char)
    (h : nest stack cs = some last) : nest (stack ++ below) cs = some (last ++ below) := by
  induction cs generalizing stack with
  | nil =>
      cases h
      rfl
  | cons c cs ih =>
      simp only [nest] at h ⊢
      split at h
      · rename_i d _ hd
        rw [hd]
        exact ih h
      · rename_i d rest hc
        split at h
        · rename_i hcd
          simp only [hc, List.cons_append]
          rw [if_pos hcd]
          exact ih h
        · cases h
      · cases h

/-- Brackets that close what they open and nothing else. -/
def Balanced (cs : List Char) : Prop := ∀ stack, nest stack cs = some stack

theorem balanced_iff {cs : List Char} : Balanced cs ↔ nest [] cs = some [] :=
  ⟨fun h => h [], fun h stack => nest_above stack h⟩

theorem Balanced.nil : Balanced [] := fun _ => rfl

theorem Balanced.append {cs ds : List Char} (hcs : Balanced cs) (hds : Balanced ds) :
    Balanced (cs ++ ds) := by
  intro stack
  rw [nest_append, hcs stack]
  exact hds stack

/-- Balanced brackets stay balanced between an opening and its closing. -/
theorem Balanced.between {before cs after left : List Char} (hcs : Balanced cs)
    (hbefore : nest [] before = some left) (hafter : nest left after = some []) :
    Balanced (before ++ cs ++ after) := by
  intro stack
  rw [nest_append, nest_append]
  have hbefore := nest_above stack hbefore
  rw [List.nil_append] at hbefore
  rw [hbefore, Option.bind_some, hcs, Option.bind_some]
  exact nest_above stack hafter

end ScreenDesign.Dart
