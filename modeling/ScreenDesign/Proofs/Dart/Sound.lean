import ScreenDesign.Dart.Widget
import ScreenDesign.Proofs.Dart.Rows

/-!
# Sound layouts

A layout is sound if its rows can be scanned and its brackets are balanced.  Sound
layouts make up sound layouts: every way of building a layout has a lemma, and fixed
source text in it is checked by evaluation.  The check runs on the characters of the
text, so the lemmas speak about texts of the form `String.ofList cs`.

A layout with a remark has no place in front of a comma, so only layouts without
remarks can be attached (`Sound.attach`, `Sound.children`).
-/

namespace ScreenDesign.Dart

open Layout

/-! ## Checks of fixed source text -/

/-- Source text that is no part of a literal or remark and closes what it opens. -/
def closed (cs : List Char) : Bool :=
  cs.all isInert && decide (nest [] (cs.filter isBracket) = some [])

/-- Source text that closes what it opens with something in between, which may be a
literal. -/
def surrounds (before after : List Char) : Bool :=
  before.all isInert && after.all isInert && freesAfter true before &&
    decide (nest [] (before.filter isBracket ++ after.filter isBracket) = some [])

theorem closed_of_plain {cs : List Char} (h : cs.all isPlain = true) : closed cs = true := by
  rw [closed, all_isInert h, filter_isBracket_of_plain h]
  rfl

/-- Plain code between source text that closes what it opens around it. -/
theorem closed_around {cs ds es : List Char} (hes : es.all isPlain = true)
    (h : surrounds cs ds = true) : closed (cs ++ es ++ ds) = true := by
  simp only [surrounds, Bool.and_eq_true, decide_eq_true_eq] at h
  obtain ⟨⟨⟨hcs, hds⟩, -⟩, hnest⟩ := h
  simp only [closed, Bool.and_eq_true, decide_eq_true_eq]
  refine ⟨?_, ?_⟩
  · rw [List.all_append, List.all_append, hcs, all_isInert hes, hds]
    rfl
  · rwa [List.filter_append, List.filter_append, filter_isBracket_of_plain hes, List.append_nil]

/-- A bracket behind closed source text and the bracket that closes it in front of
closed source text. -/
theorem surrounds_pair {cs ds : List Char} (o c : Char) (hpair : closing? o = some c)
    (hcs : closed cs = true) (hds : closed ds = true) :
    surrounds (cs ++ [o]) (c :: ds) = true := by
  simp only [closed, Bool.and_eq_true, decide_eq_true_eq] at hcs hds
  obtain ⟨hinert, hbracket, hfree, hclosing⟩ :
      (isInert o = true ∧ isInert c = true) ∧ (isBracket o = true ∧ isBracket c = true) ∧
        frees o = true ∧ closing? c = none := by
    simp only [closing?] at hpair
    split at hpair
    · cases hpair; subst o; decide
    split at hpair
    · cases hpair; subst o; decide
    split at hpair
    · cases hpair; subst o; decide
    · cases hpair
  have hnest : nest [] ((cs ++ [o]).filter isBracket ++ (c :: ds).filter isBracket) = some [] := by
    rw [List.filter_append, List.filter_cons_of_pos hbracket.1, List.filter_nil,
      List.filter_cons_of_pos hbracket.2, List.append_assoc, nest_append, hcs.2]
    simp [nest, hpair, hclosing, hds.2]
  rw [surrounds, hnest, List.all_append, hcs.1]
  simp [hinert, hds.1, freesAfter, hfree]

/-! ## Soundness -/

/-- Rows that can be scanned and whose brackets are balanced. -/
structure SoundRows (remarks : Bool) (rows : List (List Token)) : Prop where
  /-- The tokens of every row can stand side by side. -/
  fits : ∀ r ∈ rows, IsRow remarks r
  /-- The brackets of all rows close what they open. -/
  balanced : Balanced (rows.flatMap rowBrackets)

/-- A layout with sound rows. -/
def Sound (remarks : Bool) (l : Layout) : Prop := SoundRows remarks l.rows

/-- Layouts that are all sound. -/
def Each (remarks : Bool) : List Layout → Prop
  | [] => True
  | l :: ls => Sound remarks l ∧ Each remarks ls

variable {remarks : Bool}

theorem SoundRows.append {rs ss : List (List Token)} (hrs : SoundRows remarks rs)
    (hss : SoundRows remarks ss) : SoundRows remarks (rs ++ ss) where
  fits := List.forall_mem_append.mpr ⟨hrs.fits, hss.fits⟩
  balanced := by
    rw [List.flatMap_append]
    exact hrs.balanced.append hss.balanced

theorem IsRow.fit {ts : List Token} (h : IsRow false ts) : Fit true ts := by
  obtain h | ⟨h, -⟩ := h
  · exact h
  · cases h

theorem IsRow.allowed {ts : List Token} (h : IsRow false ts) : IsRow remarks ts := .inl h.fit

/-- Rows without remarks are sound wherever remarks are allowed. -/
theorem Sound.allowed {l : Layout} (h : Sound false l) : Sound remarks l where
  fits r hr := (h.fits r hr).allowed
  balanced := h.balanced

/-! ## Tokens -/

/-- A token that can stand where a literal can start and closes what it opens. -/
structure Token.Whole (t : Token) : Prop where
  /-- It can stand where a literal can start. -/
  fits : t.Fits true
  /-- It closes what it opens. -/
  balanced : Balanced t.brackets

namespace Token.Whole

theorem literal (s : String) : (Token.literal s).Whole := ⟨rfl, .nil⟩

theorem number (x : Binary64) : (Token.number x).Whole := ⟨trivial, .nil⟩

theorem color (c : Color) : (Token.color c).Whole := ⟨trivial, balanced_iff.mpr rfl⟩

theorem icon {s : String} (h : s.toList.all isPlain = true) : (Token.icon s).Whole := ⟨h, .nil⟩

theorem declared {s : String} (h : s.toList.all isPlain = true) : (Token.declared s).Whole :=
  ⟨h, .nil⟩

theorem code {cs : List Char} (h : closed cs = true) :
    (Token.code (String.ofList cs)).Whole := by
  simp only [closed, Bool.and_eq_true, decide_eq_true_eq] at h
  refine ⟨?_, ?_⟩
  · rw [Token.Fits, String.toList_ofList]
    exact h.1
  · rw [Token.brackets, String.toList_ofList]
    exact balanced_iff.mpr h.2

/-- A name where there is one, and another token otherwise. -/
theorem declaredOr {name : Option String} {t : Token}
    (hname : ∀ v ∈ name, v.toList.all isPlain = true) (ht : t.Whole) :
    ((name.map Token.declared).getD t).Whole := by
  cases name with
  | none => exact ht
  | some v => exact declared (hname v rfl)

end Token.Whole

/-! ## Lists of layouts -/

theorem each_iff {ls : List Layout} : Each remarks ls ↔ ∀ l ∈ ls, Sound remarks l := by
  induction ls with
  | nil => exact ⟨fun _ => nofun, fun _ => trivial⟩
  | cons l ls ih => rw [Each, ih, List.forall_mem_cons]

namespace Each

variable {ls ms : List Layout}

theorem append (hls : Each remarks ls) (hms : Each remarks ms) : Each remarks (ls ++ ms) :=
  each_iff.mpr (List.forall_mem_append.mpr ⟨each_iff.mp hls, each_iff.mp hms⟩)

theorem map {α : Type} {f : α → Layout} {xs : List α} (h : ∀ x ∈ xs, Sound remarks (f x)) :
    Each remarks (xs.map f) := each_iff.mpr (List.forall_mem_map.mpr h)

theorem option {α : Type} {f : α → Layout} {x : Option α} (h : ∀ a ∈ x, Sound remarks (f a)) :
    Each remarks (x.map f).toList := by
  cases x with
  | none => trivial
  | some a => exact ⟨h a rfl, trivial⟩

theorem ite {c : Prop} [Decidable c] (hls : Each remarks ls) (hms : Each remarks ms) :
    Each remarks (if c then ls else ms) := by
  split
  · exact hls
  · exact hms

theorem allowed (h : Each false ls) : Each remarks ls :=
  each_iff.mpr fun l hl => (each_iff.mp h l hl).allowed

/-- Sound layouts that follow each other have sound rows. -/
theorem rows (h : Each remarks ls) : SoundRows remarks (rowsAll ls) := by
  induction ls with
  | nil => exact ⟨nofun, .nil⟩
  | cons l ls ih => exact SoundRows.append h.1 (ih h.2)

end Each

namespace Sound

/-! ## Lines -/

/-- A line is sound if its tokens can stand side by side and close what they open. -/
theorem line {ts : List Token} (hfit : Fit true ts) (hnest : nest [] (rowBrackets ts) = some []) :
    Sound remarks (.line ts) where
  fits := List.forall_mem_singleton.mpr (.inl hfit)
  balanced := by
    rw [Layout.rows, List.flatMap_singleton]
    exact balanced_iff.mpr hnest

theorem blank : Sound remarks Layout.blank := line trivial rfl

theorem row_of_closed {s : String} (h : closed s.toList = true) : Sound remarks (Layout.row s) := by
  simp only [closed, Bool.and_eq_true, decide_eq_true_eq] at h
  refine line ⟨h.1, trivial⟩ ?_
  rw [rowBrackets_code]
  exact h.2

theorem row {cs : List Char} (h : closed cs = true) :
    Sound remarks (Layout.row (String.ofList cs)) :=
  row_of_closed (by rwa [String.toList_ofList])

/-- A token that is sound by itself, between source text that closes what it opens
around it. -/
theorem between {before after : String} {t : Token}
    (h : surrounds before.toList after.toList = true) (ht : t.Whole) :
    Sound remarks (.line [.code before, t, .code after]) := by
  simp only [surrounds, Bool.and_eq_true, decide_eq_true_eq] at h
  obtain ⟨⟨⟨hbefore, hafter⟩, hfree⟩, hnest⟩ := h
  refine line ⟨hbefore, ?_, hafter, trivial⟩ ?_
  · rw [Token.next_code, hfree]
    exact ht.fits
  · rw [nest_append] at hnest
    obtain ⟨left, hopen, hclose⟩ := Option.bind_eq_some_iff.mp hnest
    have := ht.balanced.between hopen hclose []
    simpa [rowBrackets, Token.brackets] using this

theorem around {t : Token} {cs ds : List Char} (h : surrounds cs ds = true) (ht : t.Whole) :
    Sound remarks (.line [.code (String.ofList cs), t, .code (String.ofList ds)]) :=
  between (by rwa [String.toList_ofList, String.toList_ofList]) ht

/-- A token that is sound by itself, in front of fixed source text. -/
theorem leading {t : Token} {cs : List Char} (h : closed cs = true) (ht : t.Whole) :
    Sound remarks (.line [t, .code (String.ofList cs)]) := by
  simp only [closed, Bool.and_eq_true, decide_eq_true_eq] at h
  refine line ⟨ht.fits, ?_, trivial⟩ ?_
  · rw [Token.Fits, String.toList_ofList]
    exact h.1
  · have := ht.balanced.append (balanced_iff.mpr h.2) []
    simpa [rowBrackets, Token.brackets] using this

theorem textRow {s : String} {cs ds : List Char} (h : surrounds cs ds = true) :
    Sound remarks (Dart.textRow (String.ofList cs) s (String.ofList ds)) :=
  around h (.literal s)

theorem colorRow {c : Color} {cs ds : List Char} (h : surrounds cs ds = true) :
    Sound remarks (Dart.colorRow (String.ofList cs) c (String.ofList ds)) :=
  around h (.color c)

/-! ## Blocks -/

theorem block {opening closing : List Token} {body : List Layout} {left : List Char}
    (hopening : IsRow remarks opening) (hclosing : IsRow remarks closing)
    (hopen : nest [] (rowBrackets opening) = some left)
    (hclose : nest left (rowBrackets closing) = some [])
    (hbody : SoundRows remarks (rowsAll body)) :
    Sound remarks (.block opening body closing) where
  fits := by
    rw [Layout.rows, List.forall_mem_cons, List.forall_mem_append, List.forall_mem_singleton]
    exact ⟨hopening, hbody.fits, hclosing⟩
  balanced := by
    have := hbody.balanced.between hopen hclose
    simpa [Layout.rows] using this

/-- A block of source text that closes what it opens. -/
theorem enclosed {before after : String} {body : List Layout}
    (h : surrounds before.toList after.toList = true) (hbody : SoundRows remarks (rowsAll body)) :
    Sound remarks (.block [.code before] body [.code after]) := by
  simp only [surrounds, Bool.and_eq_true, decide_eq_true_eq] at h
  obtain ⟨⟨⟨hbefore, hafter⟩, -⟩, hnest⟩ := h
  rw [nest_append] at hnest
  obtain ⟨left, hopen, hclose⟩ := Option.bind_eq_some_iff.mp hnest
  rw [← rowBrackets_code] at hopen hclose
  exact block (.inl ⟨hbefore, trivial⟩) (.inl ⟨hafter, trivial⟩) hopen hclose hbody

section

variable {cs ds : List Char} {body : List Layout}

theorem fixedBlock (h : surrounds cs ds = true) (hbody : Each remarks body) :
    Sound remarks (.block [.code (String.ofList cs)] body [.code (String.ofList ds)]) :=
  enclosed (by rwa [String.toList_ofList, String.toList_ofList]) hbody.rows

theorem parentheses {name : String} (h : name.toList.all isPlain = true)
    (hds : closed ds = true) (hbody : Each remarks body) :
    Sound remarks (.block [.code (name ++ "(")] body [.code (String.ofList (')' :: ds))]) := by
  have hopening : (name ++ "(").toList = name.toList ++ ['('] := by simp
  refine enclosed ?_ hbody.rows
  rw [hopening, String.toList_ofList]
  exact surrounds_pair '(' ')' rfl (closed_of_plain h) hds

theorem call (h : cs.all isPlain = true) (hbody : Each remarks body) :
    Sound remarks (Layout.call (String.ofList cs) body) :=
  @parentheses _ [] _ _ (by rwa [String.toList_ofList]) rfl hbody

theorem argument (h : cs.all isPlain = true) (hbody : Each remarks body) :
    Sound remarks (Layout.argument (String.ofList cs) body) :=
  @parentheses _ [','] _ _ (by rwa [String.toList_ofList]) rfl hbody

theorem braces_of_closed {head tail : String} (hhead : closed head.toList = true)
    (htail : closed tail.toList = true) (hbody : Each remarks body) :
    Sound remarks (Layout.braces head body tail) := by
  have hopening : (head ++ "\x7b").toList = head.toList ++ ['\x7b'] := by simp
  have hclosing : ("\x7d" ++ tail).toList = '\x7d' :: tail.toList := by simp
  refine enclosed ?_ hbody.rows
  rw [hopening, hclosing]
  exact surrounds_pair '\x7b' '\x7d' rfl hhead htail

theorem braces (hcs : closed cs = true) (hds : closed ds = true) (hbody : Each remarks body) :
    Sound remarks (Layout.braces (String.ofList cs) body (String.ofList ds)) :=
  braces_of_closed (by rwa [String.toList_ofList]) (by rwa [String.toList_ofList]) hbody

theorem brackets (h : cs.all isPlain = true) (hbody : Each remarks body) :
    Sound remarks (Layout.brackets (String.ofList cs) body) := by
  have hopening : (String.ofList cs ++ ": [").toList = (cs ++ [':', ' ']) ++ ['['] := by simp
  have hkey : (cs ++ [':', ' ']).all isPlain = true := by
    rw [List.all_append, h]
    rfl
  refine enclosed ?_ hbody.rows
  rw [hopening]
  exact surrounds_pair '[' ']' rfl (closed_of_plain hkey) rfl

end

/-! ## Attaching -/

/-- Tokens without brackets in front of a sound layout and behind it. -/
theorem wrap {before after : List Token} {l : Layout}
    (hbefore : ∀ ts, Fit true ts → Fit true (before ++ ts)) (hafter : ∀ free, Fit free after)
    (hnobefore : rowBrackets before = []) (hnoafter : rowBrackets after = [])
    (h : Sound false l) : Sound remarks (l.wrap before after) := by
  cases l with
  | line ts =>
      have hts := (SoundRows.fits h ts (List.mem_singleton.mpr rfl)).fit
      refine ⟨List.forall_mem_singleton.mpr (.inl ?_), ?_⟩
      · exact Fit.append (hbefore ts hts) hafter
      · have := SoundRows.balanced h
        simpa [Layout.wrap, Layout.rows, rowBrackets_append, hnobefore, hnoafter] using this
  | block opening body closing =>
      obtain ⟨hrow, hbalanced⟩ := h
      rw [Layout.rows, List.forall_mem_cons, List.forall_mem_append,
        List.forall_mem_singleton] at hrow
      obtain ⟨hopening, hbody, hclosing⟩ := hrow
      refine ⟨?_, ?_⟩
      · rw [Layout.wrap, Layout.rows, List.forall_mem_cons, List.forall_mem_append,
          List.forall_mem_singleton]
        exact ⟨.inl (hbefore opening hopening.fit), fun r hr => (hbody r hr).allowed,
          .inl (hclosing.fit.append hafter)⟩
      · simpa [Layout.wrap, Layout.rows, rowBrackets_append, hnobefore, hnoafter] using hbalanced

/-- A comma behind a layout. -/
theorem item {l : Layout} (h : Sound false l) : Sound remarks (l.wrap [] [.code ","]) :=
  wrap (fun _ hts => hts) (fun _ => ⟨rfl, trivial⟩) rfl rfl h

theorem attach {cs : List Char} {l : Layout} (h : cs.all isPlain = true) (hl : Sound false l) :
    Sound remarks (Layout.attach (String.ofList cs) l) := by
  have hkey : (String.ofList cs ++ ": ").toList = cs ++ [':', ' '] := by simp
  have hplain : (cs ++ [':', ' ']).all isPlain = true := by
    rw [List.all_append, h]
    rfl
  refine wrap (fun ts hts => ⟨?_, ?_⟩) (fun _ => ⟨rfl, trivial⟩) ?_ rfl hl
  · rw [Token.Fits, hkey]
    exact all_isInert hplain
  · rw [Token.next_code, hkey, freesAfter, List.getLast?_append]
    exact hts
  · rw [rowBrackets_code, hkey]
    exact filter_isBracket_of_plain hplain

theorem children {ls : List Layout} (h : Each false ls) : Sound remarks (Layout.children ls) :=
  brackets rfl (.map fun l hl => item (each_iff.mp h l hl))

end Sound

end ScreenDesign.Dart
