import ScreenDesign.Proofs.Dart.SoundProgram

/-!
# Nesting in source text

Brackets nest, so source text is a list of trees: a lexeme is a leaf, and two brackets that
match are a group with what stands between them.  `trees?` reads the trees of lexemes on a stack,
with the trees in front of each open bracket.  The stack of `nest` is the same without the trees,
so there are trees just where brackets are balanced (`exists_trees`).

What is read does not depend on what stands around it (`foldlM_above`).  So neighbouring texts
have the trees of both (`trees?_append`), and fixed text is read apart from what it encloses
(`trees?_around`).
-/

namespace ScreenDesign.Dart

open Layout

/-- A piece of source text. -/
inductive Tree where
  /-- A lexeme that is no bracket. -/
  | leaf (l : Lexeme)
  /-- Two brackets, given by the opening one, with what stands between them. -/
  | group (opening : Char) (body : List Tree)

/-! ## Reading -/

/-- An open bracket, with the one that closes it and with the trees in front of it. -/
structure Pending where
  opening : Char
  closing : Char
  before : List Tree

/-- The open brackets, the innermost first, and the trees behind the innermost one. -/
abbrev Reading := List Pending × List Tree

/-- Reads one lexeme. -/
def Reading.step : Reading → Lexeme → Option Reading
  | (stack, done), .code c =>
      if isBracket c then
        match closing? c, stack with
        | some d, stack => some (⟨c, d, done⟩ :: stack, [])
        | none, p :: stack =>
            if c = p.closing then some (stack, p.before ++ [.group p.opening done]) else none
        | none, [] => none
      else some (stack, done ++ [.leaf (.code c)])
  | (stack, done), l => some (stack, done ++ [.leaf l])

/-- The trees of lexemes. -/
def trees? (ls : List Lexeme) : Option (List Tree) :=
  match ls.foldlM Reading.step ([], []) with
  | some ([], ts) => some ts
  | _ => none

theorem trees?_eq_some_iff {ls : List Lexeme} {ts : List Tree} :
    trees? ls = some ts ↔ ls.foldlM Reading.step ([], []) = some ([], ts) := by
  rw [trees?]
  split
  case h_1 heq => simp [heq]
  case h_2 hne =>
    constructor
    · intro h
      cases h
    · intro h
      exact absurd h (hne ts)

/-! ## Balanced brackets -/

/-- The brackets are those that `nest` works on. -/
theorem exists_foldlM {stack : List Pending} {done : List Tree} {ls : List Lexeme}
    {last : List Char} (h : nest (stack.map Pending.closing) (codeBrackets ls) = some last) :
    ∃ stack' done', ls.foldlM Reading.step (stack, done) = some (stack', done') ∧
      stack'.map Pending.closing = last := by
  induction ls generalizing stack done with
  | nil =>
      rw [codeBrackets, nest, Option.some.injEq] at h
      exact ⟨stack, done, rfl, h⟩
  | cons l ls ih =>
      rw [List.foldlM_cons]
      cases l with
      | literal s => exact ih h
      | comment s => exact ih h
      | code c =>
          by_cases hbracket : isBracket c = true
          · rw [codeBrackets, if_pos hbracket] at h
            cases hclosing : closing? c with
            | some d =>
                simp only [nest, hclosing] at h
                simp only [Reading.step, if_pos hbracket, hclosing]
                exact ih h
            | none =>
                cases stack with
                | nil => simp [nest, hclosing] at h
                | cons p stack =>
                    simp only [nest, hclosing, List.map_cons] at h
                    split at h
                    case isTrue heq =>
                      simp only [Reading.step, if_pos hbracket, hclosing, if_pos heq]
                      exact ih h
                    case isFalse => cases h
          · rw [codeBrackets, if_neg hbracket] at h
            simp only [Reading.step, if_neg hbracket]
            exact ih h

/-- Lexemes with balanced brackets have trees. -/
theorem exists_trees {ls : List Lexeme} (h : nest [] (codeBrackets ls) = some []) :
    ∃ ts, trees? ls = some ts := by
  obtain ⟨stack, ts, hread, hopen⟩ := @exists_foldlM [] [] _ _ h
  rw [List.map_eq_nil_iff] at hopen
  subst hopen
  exact ⟨ts, trees?_eq_some_iff.mpr hread⟩

/-! ## Reading behind something -/

/-- What has been read, with open brackets and trees in front of it. -/
def Reading.above (base : Reading) : List Pending → List Tree → Reading
  | [], done => (base.1, base.2 ++ done)
  | p :: stack, done =>
      ({ p with before := (above base stack p.before).2 } :: (above base stack p.before).1, done)

theorem Reading.above_append (base : Reading) (stack : List Pending) (done more : List Tree) :
    base.above stack (done ++ more) =
      ((base.above stack done).1, (base.above stack done).2 ++ more) := by
  cases stack with
  | nil => rw [above, above, List.append_assoc]
  | cons p stack => rfl

/-- A step does not depend on what stands in front. -/
theorem Reading.step_above (base : Reading) {stack stack' : List Pending} {done done' : List Tree}
    {l : Lexeme} (h : step (stack, done) l = some (stack', done')) :
    step (base.above stack done) l = some (base.above stack' done') := by
  have hleaf (l : Lexeme) : some ((base.above stack done).1, (base.above stack done).2 ++ [.leaf l])
      = some (base.above stack (done ++ [.leaf l])) := by
    rw [above_append]
  cases l with
  | literal s =>
      cases h
      exact hleaf _
  | comment s =>
      cases h
      exact hleaf _
  | code c =>
      by_cases hbracket : isBracket c = true
      · cases hclosing : closing? c with
        | some d =>
            simp only [step, if_pos hbracket, hclosing] at h ⊢
            cases h
            rfl
        | none =>
            cases stack with
            | nil => simp [step, hbracket, hclosing] at h
            | cons p stack =>
                simp only [step, if_pos hbracket, hclosing, above] at h ⊢
                split at h
                case isFalse => cases h
                case isTrue heq =>
                  cases h
                  rw [if_pos heq, above_append]
      · simp only [step, if_neg hbracket] at h ⊢
        cases h
        exact hleaf _

/-- What is read does not depend on what stands in front. -/
theorem Reading.foldlM_above (base : Reading) {stack stack' : List Pending}
    {done done' : List Tree} {ls : List Lexeme}
    (h : ls.foldlM step (stack, done) = some (stack', done')) :
    ls.foldlM step (base.above stack done) = some (base.above stack' done') := by
  induction ls generalizing stack done with
  | nil =>
      cases h
      rfl
  | cons l ls ih =>
      rw [List.foldlM_cons] at h ⊢
      obtain ⟨⟨mid, here⟩, hstep, hrest⟩ := Option.bind_eq_some_iff.mp h
      rw [step_above base hstep]
      exact ih hrest

/-! ## Putting text together -/

section

variable {xs ys : List Lexeme} {ts us : List Tree}

/-- What stands around a text can be read without it. -/
theorem trees?_around {before after : List Lexeme} {stack : List Pending} {done : List Tree}
    (hbefore : before.foldlM Reading.step ([], []) = some (stack, done)) (hxs : trees? xs = some ts)
    (hafter : after.foldlM Reading.step (stack, done ++ ts) = some ([], us)) :
    trees? (before ++ (xs ++ after)) = some us := by
  rw [trees?_eq_some_iff] at hxs ⊢
  have hinside := Reading.foldlM_above (stack, done) hxs
  rw [Reading.above, Reading.above, List.append_nil] at hinside
  rw [List.foldlM_append, hbefore]
  show (xs ++ after).foldlM Reading.step (stack, done) = _
  rw [List.foldlM_append, hinside]
  exact hafter

/-- Neighbouring texts have the trees of both. -/
theorem trees?_append (hxs : trees? xs = some ts) (hys : trees? ys = some us) :
    trees? (xs ++ ys) = some (ts ++ us) := by
  have hboth : trees? (xs ++ (ys ++ [])) = some (ts ++ us) :=
    trees?_around (trees?_eq_some_iff.mp hxs) hys rfl
  rwa [List.append_nil] at hboth

/-- Lexemes without brackets are leaves. -/
theorem trees?_leaves (h : codeBrackets xs = []) : trees? xs = some (xs.map .leaf) := by
  induction xs with
  | nil => rfl
  | cons x xs ih =>
      have hone : trees? [x] = some [.leaf x] ∧ codeBrackets xs = [] := by
        cases x with
        | literal s => exact ⟨rfl, h⟩
        | comment s => exact ⟨rfl, h⟩
        | code c =>
            rw [codeBrackets] at h
            split at h
            case isTrue => cases h
            case isFalse hbracket =>
              refine ⟨?_, h⟩
              rw [trees?_eq_some_iff]
              simp [Reading.step, hbracket]
      exact trees?_append hone.1 (ih hone.2)

end

end ScreenDesign.Dart
