import Mathlib.Data.List.Basic
import ScreenDesign.Proofs.Dart.Sights
import ScreenDesign.Proofs.Dart.Tokens

/-!
# Links in source text

A program moves to another screen by `pushNamed` or `pushReplacementNamed`, each with a
literal.  `links` reads these calls off the lexemes of its source text.  It keeps the code since
the last literal, the last character first, and looks at it where the next literal comes.

Both calls end in the same stem.  Where the code does not end in the stem, a literal is no link.
Source text is *calm* if it keeps code from ending in the stem, which is seen at its last
characters.  So a layout of calm source text has no links, and each way of building has a lemma
for a layout with links at one place (`Leads`).
-/

namespace ScreenDesign.Dart

open Layout

/-! ## Reading -/

/-- A call that leads to a route. -/
inductive Link where
  /-- The route is put on top of the others. -/
  | push (route : String)
  /-- The route takes the place of the last one. -/
  | replace (route : String)
  deriving DecidableEq

/-- How both calls end, from the last character. -/
def stem : List Char := ['(', 'd', 'e', 'm', 'a', 'N']

/-- The call that a literal belongs to, by the code in front of it. -/
def linkOf? (before : List Char) (path : String) : Option Link :=
  if (stem ++ "push".toList.reverse).isPrefixOf before then some (.push path)
  else if (stem ++ "pushReplacement".toList.reverse).isPrefixOf before then some (.replace path)
  else none

/-- The links of lexemes that come after some code. -/
def linksAfter (before : List Char) : List Lexeme → List Link
  | [] => []
  | .code c :: ls => linksAfter (c :: before) ls
  | .literal s :: ls => (linkOf? before s).toList ++ linksAfter [] ls
  | .comment _ :: ls => linksAfter before ls

/-- The links of source text, in order. -/
def links (ls : List Lexeme) : List Link := linksAfter [] ls

theorem linksAfter_code (before cs : List Char) (rest : List Lexeme) :
    linksAfter before (cs.map .code ++ rest) = linksAfter (cs.reverse ++ before) rest := by
  induction cs generalizing before with
  | nil => rfl
  | cons c cs ih =>
      rw [List.map_cons, List.cons_append, linksAfter, ih, List.reverse_cons, List.append_assoc]
      rfl

/-! ## Calm code -/

/-- Code that does not end in the stem. -/
def Tame (before : List Char) : Prop := ¬ stem <+: before

theorem tame_nil : Tame [] := by
  rw [Tame, List.prefix_nil]
  exact List.cons_ne_nil _ _

theorem linkOf?_of_tame {before : List Char} (h : Tame before) (path : String) :
    linkOf? before path = none := by
  have hlonger (cs : List Char) : (stem ++ cs).isPrefixOf before = false := by
    rw [← Bool.not_eq_true, List.isPrefixOf_iff_prefix]
    exact fun hprefix => h ((List.prefix_append stem cs).trans hprefix)
  rw [linkOf?, hlonger, hlonger]
  rfl

theorem not_prefix_of_differ {key cs : List Char} (h : differ key cs = true) : ¬ key <+: cs := by
  rintro ⟨more, rfl⟩
  induction key with
  | nil => cases h
  | cons k key ih =>
      rw [List.cons_append, differ, Bool.or_eq_true, decide_eq_true_eq] at h
      exact ih (h.resolve_left (not_not_intro rfl))

/-- Whether code ends otherwise than in the stem behind a text, whatever came before. -/
def isFirm (cs : List Char) : Bool := differ stem (visible cs.reverse)

/-- Whether code does not end in the stem behind a text if it did not before. -/
def isCalm (cs : List Char) : Bool := isFirm cs || (visible cs.reverse).isEmpty

theorem isFirm_append (cs : List Char) {ds : List Char} (h : isFirm ds = true) :
    isFirm (cs ++ ds) = true := by
  rw [isFirm, List.reverse_append, visible, List.filter_append]
  exact differ_append h _

theorem isCalm_of_isFirm {cs : List Char} (h : isFirm cs = true) : isCalm cs = true :=
  Bool.or_eq_true_iff.mpr (.inl h)

theorem tame_of_isCalm {cs before : List Char} (h : isCalm cs = true) (hbefore : Tame before) :
    Tame ((visible cs).reverse ++ before) := by
  have hreverse : (visible cs).reverse = visible cs.reverse := List.filter_reverse.symm
  rw [isCalm, Bool.or_eq_true, List.isEmpty_iff] at h
  rw [hreverse]
  rcases h with h | h
  · exact not_prefix_of_differ (differ_append h before)
  · rwa [h]

/-- Text without parentheses is calm. -/
theorem isCalm_of_plain {cs : List Char} (h : cs.all isPlain = true) : isCalm cs = true := by
  have hopen : ∀ c ∈ visible cs.reverse, c ≠ '(' := by
    intro c hc
    have hplain := List.all_eq_true.mp h c (List.mem_reverse.mp (List.mem_filter.mp hc).1)
    rintro rfl
    cases hplain
  rw [isCalm, isFirm]
  cases hcs : visible cs.reverse with
  | nil => rfl
  | cons c cs =>
      have hc := hopen c (hcs ▸ List.mem_cons_self)
      simp [stem, differ, hc.symm]

/-! ## Tokens -/

/-- A token whose text has no parentheses if it is a name. -/
def Token.Neat : Token → Prop
  | .declared s | .icon s => PlainName s
  | _ => True

theorem Token.neat_of_fits {t : Token} {free : Bool} (h : t.Fits free) : t.Neat := by
  cases t with
  | declared s => exact h
  | icon s => exact h
  | _ => trivial

/-- The names in a row have no parentheses. -/
theorem IsRow.neat {remarks : Bool} {ts : List Token} (h : IsRow remarks ts) :
    ∀ t ∈ ts, t.Neat := by
  rcases h with hfit | ⟨-, s, rfl, -⟩
  · generalize true = free at hfit
    induction ts generalizing free with
    | nil => exact nofun
    | cons t ts ih => exact List.forall_mem_cons.mpr ⟨Token.neat_of_fits hfit.1, ih _ hfit.2⟩
  · exact List.forall_mem_singleton.mpr trivial

/-- Tokens that have some links where the code in front of them does not end in the stem.  Nor
does it behind them. -/
def Leads (out : List Link) (ts : List Token) : Prop :=
  (∀ t ∈ ts, t.Neat) → ∀ before, Tame before → ∃ after, Tame after ∧
    ∀ rest, linksAfter before (rowLexemes ts ++ rest) = out ++ linksAfter after rest

namespace Leads

variable {out out' : List Link} {ts us : List Token} {cs ds : List Char}

theorem nil : Leads [] [] := fun _ before hbefore => ⟨before, hbefore, fun _ => rfl⟩

theorem append (hts : Leads out ts) (hus : Leads out' us) : Leads (out ++ out') (ts ++ us) := by
  intro hneat before hbefore
  obtain ⟨hneat, hneat'⟩ := List.forall_mem_append.mp hneat
  obtain ⟨mid, hmid, hmids⟩ := hts hneat before hbefore
  obtain ⟨after, hafter, hafters⟩ := hus hneat' mid hmid
  refine ⟨after, hafter, fun rest => ?_⟩
  rw [rowLexemes_append, List.append_assoc, hmids, hafters, List.append_assoc]

theorem calm_left (hts : Leads [] ts) (hus : Leads out us) : Leads out (ts ++ us) :=
  hts.append hus

theorem calm_right (hts : Leads out ts) (hus : Leads [] us) : Leads out (ts ++ us) := by
  have := hts.append hus
  rwa [List.append_nil] at this

/-- A token of calm code has no link. -/
theorem of_isCalm {t : Token} (h : isCalm t.text.toList = true)
    (hcode : t.lexemes = t.text.toList.flatMap charLexemes) : Leads [] [t] := by
  intro _ before hbefore
  refine ⟨_, tame_of_isCalm h hbefore, fun rest => ?_⟩
  rw [rowLexemes, List.flatMap_singleton, hcode, flatMap_charLexemes, linksAfter_code]
  rfl

theorem code (h : isCalm cs = true) : Leads [] [.code (String.ofList cs)] := by
  refine of_isCalm ?_ rfl
  rwa [Token.text, String.toList_ofList]

/-- Source text with a fixed ending. -/
theorem ending (s : String) (h : isFirm ds = true) : Leads [] [.code (s ++ String.ofList ds)] := by
  refine of_isCalm ?_ rfl
  rw [Token.text, String.toList_append, String.toList_ofList]
  exact isCalm_of_isFirm (isFirm_append _ h)

theorem literal (s : String) : Leads [] [.literal s] := by
  intro _ before hbefore
  refine ⟨[], tame_nil, fun rest => ?_⟩
  have hread : linksAfter before (.literal s :: rest) =
      (linkOf? before s).toList ++ linksAfter [] rest := rfl
  rw [linkOf?_of_tame hbefore] at hread
  exact hread

theorem declared (s : String) : Leads [] [.declared s] := by
  intro hneat
  exact of_isCalm (isCalm_of_plain (hneat _ List.mem_cons_self)) rfl hneat

theorem icon (s : String) : Leads [] [.icon s] := by
  intro hneat
  have hname : PlainName (Dart.icon s) :=
    (plainName_ofList rfl).append (hneat _ List.mem_cons_self)
  exact of_isCalm (isCalm_of_plain hname) rfl hneat

theorem number (x : Binary64) : Leads [] [.number x] :=
  of_isCalm (isCalm_of_plain (all_isPlain_onePlace x)) rfl

theorem color (c : Color) : Leads [] [.color c] := by
  refine of_isCalm ?_ rfl
  rw [Token.text, toList_color]
  exact isCalm_of_isFirm (isFirm_append _ rfl)

theorem remark (s : String) : Leads [] [.remark s] :=
  fun _ before hbefore => ⟨before, hbefore, fun _ => rfl⟩

/-- The literal of a call. -/
theorem called {path : String} {link : Link}
    (h : ∀ before, linkOf? ((visible cs).reverse ++ before) path = some link) :
    Leads [link] [.code (String.ofList cs), .literal path] := by
  intro _ before _
  refine ⟨[], tame_nil, fun rest => ?_⟩
  have hread : linksAfter before (rowLexemes [.code (String.ofList cs), .literal path] ++ rest) =
      (linkOf? ((visible cs).reverse ++ before) path).toList ++ linksAfter [] rest := by
    rw [rowLexemes, List.flatMap_cons, lexemes_code, List.append_assoc, linksAfter_code]
    rfl
  rw [hread, h]
  rfl

theorem push (path : String) :
    Leads [.push path] [.code "Navigator.of(context).pushNamed(", .literal path, .code ");"] :=
  (called fun _ => rfl).calm_right (@code [')', ';'] rfl)

theorem replace (path : String) :
    Leads [.replace path]
      [.code "Navigator.of(context).pushReplacementNamed(", .literal path, .code ");"] :=
  (called fun _ => rfl).calm_right (@code [')', ';'] rfl)

end Leads

/-! ## Layouts -/

/-- A layout without links, that does not end in the stem. -/
def Calm (l : Layout) : Prop := Leads [] l.tokens

namespace Leads

variable {out out' : List Link} {l : Layout} {ls body : List Layout} {cs ds : List Char}

theorem cons (hl : Leads out l.tokens) (hls : Leads out' (ls.flatMap tokens)) :
    Leads (out ++ out') ((l :: ls).flatMap tokens) := hl.append hls

theorem all (h : ls.Forall Calm) : Leads [] (ls.flatMap tokens) := by
  induction ls with
  | nil => exact nil
  | cons l ls ih =>
      rw [List.forall_cons] at h
      exact cons h.1 (ih h.2)

/-- There are links in the first layout only. -/
theorem first (hl : Leads out l.tokens) (hls : ls.Forall Calm) :
    Leads out ((l :: ls).flatMap tokens) := hl.calm_right (all hls)

theorem only (hl : Leads out l.tokens) : Leads out ([l].flatMap tokens) := hl.first trivial

/-- There are no links in the first layout. -/
theorem later (hl : Calm l) (hls : Leads out (ls.flatMap tokens)) :
    Leads out ((l :: ls).flatMap tokens) := hl.calm_left hls

theorem map {α : Type} {f : α → Layout} {g : α → List Link} {as : List α}
    (h : ∀ a ∈ as, Leads (g a) (f a).tokens) :
    Leads (as.flatMap g) ((as.map f).flatMap tokens) := by
  induction as with
  | nil => exact nil
  | cons a as ih =>
      obtain ⟨ha, has⟩ := List.forall_mem_cons.mp h
      exact cons ha (ih has)

theorem block {opening closing : List Token} (hopening : Leads [] opening)
    (hbody : Leads out (body.flatMap tokens)) (hclosing : Leads [] closing) :
    Leads out (Layout.block opening body closing).tokens := by
  rw [tokens_block]
  exact hopening.calm_left (hbody.calm_right hclosing)

theorem call (h : isCalm (cs ++ ['(']) = true) (hbody : Leads out (body.flatMap tokens)) :
    Leads out (Layout.call (String.ofList cs) body).tokens := by
  have hopening := code h
  rw [String.ofList_append] at hopening
  exact block hopening hbody (@code [')'] rfl)

theorem argument (h : isCalm (cs ++ ['(']) = true) (hbody : Leads out (body.flatMap tokens)) :
    Leads out (Layout.argument (String.ofList cs) body).tokens := by
  have hopening := code h
  rw [String.ofList_append] at hopening
  exact block hopening hbody (@code [')', ','] rfl)

theorem brackets {key : String} (hbody : Leads out (body.flatMap tokens)) :
    Leads out (Layout.brackets key body).tokens :=
  block (@ending [':', ' ', '['] key rfl) hbody (@code [']', ','] rfl)

theorem braces {head : String} (h : isCalm ('\x7d' :: ds) = true)
    (hbody : Leads out (body.flatMap tokens)) :
    Leads out (Layout.braces head body (String.ofList ds)).tokens := by
  have hclosing := code h
  rw [String.ofList_cons] at hclosing
  exact block (@ending ['\x7b'] head rfl) hbody hclosing

theorem attach {key : String} (hl : Leads out l.tokens) :
    Leads out (Layout.attach key l).tokens := by
  have hkey : Leads [] [.code (key ++ ": ")] := @ending [':', ' '] key rfl
  rw [Layout.attach, tokens_wrap]
  exact hkey.calm_left (hl.calm_right (@code [','] rfl))

end Leads

namespace Calm

variable {ls body : List Layout} {cs ds : List Char}

theorem row (h : isCalm cs = true) : Calm (Layout.row (String.ofList cs)) := .code h

/-- A row with a fixed ending. -/
theorem rowEnding {s : String} (h : isFirm ds = true) : Calm (Layout.row (s ++ String.ofList ds)) :=
  .ending s h

theorem rowComma (s : String) : Calm (Layout.row (s ++ ",")) := @rowEnding [','] s rfl

/-- A token between calm source text. -/
theorem around {t : Token} (h : (isCalm cs && isCalm ds) = true) (ht : Leads [] [t]) :
    Calm (.line [.code (String.ofList cs), t, .code (String.ofList ds)]) := by
  rw [Bool.and_eq_true] at h
  exact (Leads.code h.1).calm_left (ht.calm_left (.code h.2))

theorem textRow {s : String} (h : (isCalm cs && isCalm ds) = true) :
    Calm (Dart.textRow (String.ofList cs) s (String.ofList ds)) := around h (.literal s)

theorem colorRow {c : Color} (h : (isCalm cs && isCalm ds) = true) :
    Calm (Dart.colorRow (String.ofList cs) c (String.ofList ds)) := around h (.color c)

theorem children (h : ls.Forall Calm) : Calm (Layout.children ls) := by
  refine .brackets (.all ((List.forall_map_iff _).mpr (h.imp fun l hl => ?_)))
  rw [Function.comp_apply, Calm, tokens_wrap, List.nil_append]
  exact Leads.calm_right hl (@Leads.code [','] rfl)

end Calm

theorem forall_ite {c : Prop} [Decidable c] {p : Layout → Prop} {ls body : List Layout}
    (hls : ls.Forall p) (hbody : body.Forall p) : (if c then ls else body).Forall p := by
  split
  · exact hls
  · exact hbody

theorem forall_option {α : Type} {f : α → Layout} {p : Layout → Prop} (h : ∀ a, p (f a))
    (x : Option α) : (x.map f).toList.Forall p := by
  cases x with
  | none => trivial
  | some a => exact h a

end ScreenDesign.Dart
