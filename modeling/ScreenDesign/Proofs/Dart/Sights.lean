import ScreenDesign.Proofs.Dart.Rows
import ScreenDesign.Proofs.Sights

/-!
# Reading source text

`sights` reads what a program shows off the lexemes of its source text, so nothing
inside of a literal or a remark counts.  At every place it tries the forms in which
something is shown: `Icons.` with a name, `pushNamed(` with a literal, and the
constructors of menu items, columns, rows and cells.

Tokens show their sights if reading them in front of any text gives these sights and
goes on behind them (`Shows`).  Most source text is still: none of the forms can begin
in it, whatever follows.  This is checked by evaluation, as every character of the
text and those behind it already differ from each form.
-/

namespace ScreenDesign.Dart

open Layout

/-! ## Reading -/

/-- The lexemes behind some characters of code. -/
def dropCode? : List Char → List Lexeme → Option (List Lexeme)
  | [], ls => some ls
  | c :: cs, .code d :: ls => if c = d then dropCode? cs ls else none
  | _ :: _, _ => none

/-- The literal behind some code, and the lexemes behind it. -/
def textAfter? (key : String) (ls : List Lexeme) : Option (String × List Lexeme) :=
  match dropCode? key.toList ls with
  | some (.literal s :: rest) => some (s, rest)
  | _ => none

/-- The name of an icon at the start of lexemes. -/
def nameChars : List Lexeme → List Char
  | .code c :: ls => if Icon.isPart c then c :: nameChars ls else []
  | _ => []

def iconAt? (ls : List Lexeme) : Option Sight :=
  (dropCode? "Icons.".toList ls).map fun rest => .icon (String.ofList (nameChars rest))

def routeAt? (ls : List Lexeme) : Option Sight :=
  (textAfter? "pushNamed(" ls).map fun (path, _) => .route path

def itemAt? (ls : List Lexeme) : Option Sight :=
  (textAfter? "DropdownMenuItem<String>(value:" ls).bind fun (value, rest) =>
    (textAfter? ",child:Text(" rest).map fun (label, _) => .item value label

def headingAt? (ls : List Lexeme) : Option Sight :=
  (textAfter? "DataColumn(label:Text(" ls).map fun (text, _) => .heading text

def rowAt? (ls : List Lexeme) : Option Sight := (dropCode? "DataRow(".toList ls).map fun _ => .row

def cellAt? (ls : List Lexeme) : Option Sight :=
  (textAfter? "DataCell(Text(" ls).map fun (text, _) => .cell text

/-- What is shown at the start of lexemes. -/
def sightAt? (ls : List Lexeme) : Option Sight :=
  (iconAt? ls).or <| (routeAt? ls).or <| (itemAt? ls).or <| (headingAt? ls).or <|
    (rowAt? ls).or <| cellAt? ls

/-- What source text shows, in order. -/
def sights : List Lexeme → List Sight
  | [] => []
  | x :: xs => (sightAt? (x :: xs)).toList ++ sights xs

/-! ## Still code -/

/-- How the forms begin, as far as other source text does not begin so. -/
def starts : List (List Char) :=
  [['I', 'c', 'o', 'n', 's', '.'], ['p', 'u', 's', 'h', 'N'],
    ['D', 'r', 'o', 'p', 'd', 'o', 'w', 'n', 'M'], ['D', 'a', 't', 'a', 'C'],
    ['D', 'a', 't', 'a', 'R']]

/-- Whether two texts differ at a place that both have. -/
def differ : List Char → List Char → Bool
  | c :: cs, d :: ds => c ≠ d || differ cs ds
  | _, _ => false

/-- Whether a text differs from the start of every form. -/
def isOther (cs : List Char) : Bool := starts.all fun start => differ start cs

/-- Whether a form begins with a character. -/
def isInitial (c : Char) : Bool := c = 'I' || c = 'p' || c = 'D'

/-- Whether no form can begin in a text without white space, whatever follows. -/
def isQuiet : List Char → Bool
  | [] => true
  | c :: cs => (!isInitial c || isOther (c :: cs)) && isQuiet cs

/-- A text without its white space. -/
def visible (cs : List Char) : List Char := cs.filter fun c => !isSpace c

/-- Whether no form can begin in source text, whatever follows. -/
def isStill (cs : List Char) : Bool := isQuiet (visible cs)

section

variable {p : Char → Bool} (h : [' ', '\n', '\r', '\t'].all (!p ·) = true)

include h

/-- A character of a kind that white space is not of. -/
theorem isSpace_eq_false {c : Char} (hc : p c = true) : isSpace c = false := by
  rw [← Bool.not_eq_true]
  intro hspace
  have hmem : c ∈ [' ', '\n', '\r', '\t'] := by
    simpa [isSpace, or_assoc] using hspace
  have hnot := List.all_eq_true.mp h c hmem
  rw [hc] at hnot
  cases hnot

theorem visible_eq_self {cs : List Char} (hcs : ∀ c ∈ cs, p c = true) : visible cs = cs := by
  refine List.filter_eq_self.mpr fun c hc => ?_
  rw [isSpace_eq_false h (hcs c hc)]
  rfl

end

theorem dropCode?_of_differ {key cs : List Char} (h : differ key cs = true)
    (rest : List Lexeme) : dropCode? key (cs.map .code ++ rest) = none := by
  induction key generalizing cs with
  | nil => cases h
  | cons k key ih =>
      cases cs with
      | nil => cases h
      | cons c cs =>
          rw [differ, Bool.or_eq_true, decide_eq_true_eq] at h
          by_cases hc : k = c
          · simp [dropCode?, hc, ih (h.resolve_left (not_not_intro hc))]
          · simp [dropCode?, hc]

theorem differ_longer {key cs : List Char} (h : differ key cs = true) (more : List Char) :
    differ (key ++ more) cs = true := by
  induction key generalizing cs with
  | nil => cases h
  | cons k key ih =>
      cases cs with
      | nil => cases h
      | cons c cs =>
          rw [differ, Bool.or_eq_true] at h
          rw [List.cons_append, differ, Bool.or_eq_true]
          exact h.imp_right ih

theorem textAfter?_of_differ {key : String} {cs : List Char} (h : differ key.toList cs = true)
    (rest : List Lexeme) : textAfter? key (cs.map .code ++ rest) = none := by
  rw [textAfter?, dropCode?_of_differ h]

theorem isOther_cons {c : Char} (h : isInitial c = false) (cs : List Char) :
    isOther (c :: cs) = true := by
  have hne : 'I' ≠ c ∧ 'p' ≠ c ∧ 'D' ≠ c := by
    refine ⟨?_, ?_, ?_⟩ <;> rintro rfl <;> cases h
  simp [isOther, starts, differ, hne]

/-- The first character is looked at before the forms are, which is faster. -/
theorem isQuiet_cons_iff {c : Char} {cs : List Char} :
    isQuiet (c :: cs) = true ↔ isOther (c :: cs) = true ∧ isQuiet cs = true := by
  rw [isQuiet, Bool.and_eq_true, Bool.or_eq_true, Bool.not_eq_true']
  refine and_congr_left fun _ => ⟨fun h => ?_, .inr⟩
  rcases h with h | h
  · exact isOther_cons h cs
  · exact h

theorem sightAt?_of_isOther {cs : List Char} (h : isOther cs = true) (rest : List Lexeme) :
    sightAt? (cs.map .code ++ rest) = none := by
  simp only [isOther, starts, List.all_cons, List.all_nil, Bool.and_eq_true] at h
  obtain ⟨hicon, hroute, hitem, hcolumn, hrow, -⟩ := h
  have hicon : differ "Icons.".toList cs = true := hicon
  have hroute : differ "pushNamed(".toList cs = true := differ_longer hroute "amed(".toList
  have hitem : differ "DropdownMenuItem<String>(value:".toList cs = true :=
    differ_longer hitem "enuItem<String>(value:".toList
  have hheading : differ "DataColumn(label:Text(".toList cs = true :=
    differ_longer hcolumn "olumn(label:Text(".toList
  have hrow : differ "DataRow(".toList cs = true := differ_longer hrow "ow(".toList
  have hcell : differ "DataCell(Text(".toList cs = true := differ_longer hcolumn "ell(Text(".toList
  rw [sightAt?, iconAt?, routeAt?, itemAt?, headingAt?, rowAt?, cellAt?,
    dropCode?_of_differ hicon, dropCode?_of_differ hrow, textAfter?_of_differ hroute,
    textAfter?_of_differ hitem, textAfter?_of_differ hheading, textAfter?_of_differ hcell]
  rfl

/-- Quiet code shows nothing. -/
theorem sights_of_isQuiet {cs : List Char} (h : isQuiet cs = true) (rest : List Lexeme) :
    sights (cs.map .code ++ rest) = sights rest := by
  induction cs with
  | nil => rfl
  | cons c cs ih =>
      rw [isQuiet_cons_iff] at h
      have hnone : sightAt? (.code c :: (cs.map .code ++ rest)) = none := sightAt?_of_isOther h.1 rest
      rw [List.map_cons, List.cons_append, sights, hnone, ih h.2]
      rfl

theorem differ_append {key cs : List Char} (h : differ key cs = true) (ds : List Char) :
    differ key (cs ++ ds) = true := by
  induction key generalizing cs with
  | nil => cases h
  | cons k key ih =>
      cases cs with
      | nil => cases h
      | cons c cs =>
          rw [differ, Bool.or_eq_true] at h
          rw [List.cons_append, differ, Bool.or_eq_true]
          exact h.imp_right ih

theorem isOther_append {cs : List Char} (h : isOther cs = true) (ds : List Char) :
    isOther (cs ++ ds) = true :=
  List.all_eq_true.mpr fun key hkey => differ_append (List.all_eq_true.mp h key hkey) ds

theorem isQuiet_append {cs ds : List Char} (hcs : isQuiet cs = true) (hds : isQuiet ds = true) :
    isQuiet (cs ++ ds) = true := by
  induction cs with
  | nil => exact hds
  | cons c cs ih =>
      rw [isQuiet_cons_iff] at hcs
      rw [List.cons_append, isQuiet_cons_iff]
      exact ⟨isOther_append hcs.1 ds, ih hcs.2⟩

theorem isStill_append {cs ds : List Char} (hcs : isStill cs = true) (hds : isStill ds = true) :
    isStill (cs ++ ds) = true := by
  rw [isStill, visible, List.filter_append]
  exact isQuiet_append hcs hds

/-- Code without the first characters of the forms is quiet. -/
theorem isQuiet_of_noInitial {cs : List Char} (h : ∀ c ∈ cs, isInitial c = false) :
    isQuiet cs = true := by
  induction cs with
  | nil => rfl
  | cons c cs ih =>
      obtain ⟨hc, hcs⟩ := List.forall_mem_cons.mp h
      exact isQuiet_cons_iff.mpr ⟨isOther_cons hc cs, ih hcs⟩

theorem isStill_of_noInitial {cs : List Char} (h : ∀ c ∈ cs, isInitial c = false) :
    isStill cs = true :=
  isQuiet_of_noInitial fun c hc => h c (List.mem_filter.mp hc).1

/-! ## Tokens -/

/-- Tokens that show something, whatever follows them. -/
def Shows (out : List Sight) (ts : List Token) : Prop :=
  ∀ rest, sights (rowLexemes ts ++ rest) = out ++ sights rest

/-- Characters of code as lexemes. -/
theorem flatMap_charLexemes (cs : List Char) :
    cs.flatMap charLexemes = (visible cs).map .code := by
  induction cs with
  | nil => rfl
  | cons c cs ih =>
      rw [List.flatMap_cons, ih, charLexemes, visible, visible, List.filter_cons]
      cases isSpace c <;> rfl

theorem lexemes_code (cs : List Char) :
    (Token.code (String.ofList cs)).lexemes = (visible cs).map .code := by
  have htext : (Token.code (String.ofList cs)).lexemes =
      (String.ofList cs).toList.flatMap charLexemes := rfl
  rw [htext, String.toList_ofList, flatMap_charLexemes]

theorem lexemes_declared (name : String) :
    (Token.declared name).lexemes = (visible name.toList).map .code := flatMap_charLexemes _

namespace Shows

variable {out out' : List Sight} {ts us : List Token}

theorem nil : Shows [] [] := fun _ => rfl

theorem append (hts : Shows out ts) (hus : Shows out' us) : Shows (out ++ out') (ts ++ us) := by
  intro rest
  rw [rowLexemes_append, List.append_assoc, hts, hus, List.append_assoc]

theorem still_left (hts : Shows [] ts) (hus : Shows out us) : Shows out (ts ++ us) :=
  hts.append hus

theorem still_right (hts : Shows out ts) (hus : Shows [] us) : Shows out (ts ++ us) := by
  have := hts.append hus
  rwa [List.append_nil] at this

theorem singleton {t : Token} (h : ∀ rest, sights (t.lexemes ++ rest) = out ++ sights rest) :
    Shows out [t] := by
  intro rest
  rw [rowLexemes, List.flatMap_singleton]
  exact h rest

/-- A token of still code shows nothing. -/
theorem of_isStill {t : Token} (h : isStill t.text.toList = true)
    (hcode : t.lexemes = t.text.toList.flatMap charLexemes) : Shows [] [t] := by
  refine singleton fun rest => ?_
  rw [hcode, flatMap_charLexemes]
  exact sights_of_isQuiet h rest

theorem code {cs : List Char} (h : isStill cs = true) : Shows [] [.code (String.ofList cs)] := by
  refine of_isStill ?_ rfl
  rwa [Token.text, String.toList_ofList]

theorem literal (s : String) : Shows [] [.literal s] := singleton fun _ => rfl

end Shows

/-! ## Numbers and colors -/

theorem isInitial_of_mem_toDigits (n : Nat) : ∀ c ∈ Nat.toDigits 10 n, isInitial c = false := by
  intro c hc
  have hdigit := Nat.isDigit_of_mem_toDigits (by decide) (by decide) hc
  rw [← Bool.not_eq_true]
  intro hinitial
  simp only [isInitial, Bool.or_eq_true, decide_eq_true_eq] at hinitial
  rcases hinitial with (rfl | rfl) | rfl <;> cases hdigit

/-- The characters of a number are digits and a few others. -/
theorem isInitial_of_mem_onePlace {x : Binary64} :
    ∀ c ∈ x.onePlace.toList, isInitial c = false := by
  have hsign : ∀ (negative : Bool) (cs : List Char), (∀ c ∈ cs, isInitial c = false) →
      ∀ c ∈ Binary64.withSign negative cs, isInitial c = false := by
    intro negative cs hcs
    cases negative with
    | false => exact hcs
    | true => exact List.forall_mem_cons.mpr ⟨rfl, hcs⟩
  cases x with
  | finite negative rank =>
      rw [Binary64.onePlace, String.toList_ofList]
      refine hsign negative _ (List.forall_mem_append.mpr ⟨isInitial_of_mem_toDigits _, ?_⟩)
      exact List.forall_mem_cons.mpr ⟨rfl, isInitial_of_mem_toDigits _⟩
  | infinite negative =>
      have hname : (Binary64.plainNames.infinite.toList.all fun c => !isInitial c) = true := rfl
      simp only [Binary64.onePlace, Binary64.text, String.toList_ofList]
      refine hsign negative _ fun c hc => ?_
      simpa using List.all_eq_true.mp hname c hc
  | nan =>
      have hname : (Binary64.nan.onePlace.toList.all fun c => !isInitial c) = true := rfl
      intro c hc
      simpa using List.all_eq_true.mp hname c hc

/-- A form that begins with a capital D goes on with a small letter, and so hex digits
are quiet. -/
theorem isQuiet_hex {cs : List Char} {last : Char} (hlast : isInitial last = false)
    (ha : last ≠ 'a' ∧ last ≠ 'r') (h : ∀ c ∈ cs, ∃ n, c = Text.hexDigit n) :
    isQuiet (cs ++ [last]) = true := by
  have hdigit : ∀ n, (isInitial (Text.hexDigit n) = false ∨ Text.hexDigit n = 'D') ∧
      Text.hexDigit n ≠ 'a' ∧ Text.hexDigit n ≠ 'r' := by decide
  have hfollow : ∀ d ds, d ≠ 'a' ∧ d ≠ 'r' → isOther ('D' :: d :: ds) = true := by
    rintro d ds ⟨hda, hdr⟩
    simp [isOther, starts, differ, hda.symm, hdr.symm]
  induction cs with
  | nil =>
      exact isQuiet_cons_iff.mpr ⟨isOther_cons hlast [], rfl⟩
  | cons c cs ih =>
      obtain ⟨⟨n, rfl⟩, hcs⟩ := List.forall_mem_cons.mp h
      refine isQuiet_cons_iff.mpr ⟨?_, ih hcs⟩
      rcases (hdigit n).1 with hinitial | hcapital
      · exact isOther_cons hinitial _
      · rw [hcapital]
        cases cs with
        | nil => exact hfollow last [] ha
        | cons d ds =>
            obtain ⟨m, rfl⟩ := hcs d List.mem_cons_self
            exact hfollow _ _ (hdigit m).2

namespace Shows

theorem number (x : Binary64) : Shows [] [.number x] :=
  of_isStill (isStill_of_noInitial isInitial_of_mem_onePlace) rfl

theorem exists_hexDigit (c : Color) : ∀ d ∈ c.digits, ∃ n, d = Text.hexDigit n := by
  intro d hd
  simp only [Color.digits, Color.channelDigits, List.cons_append, List.nil_append,
    List.mem_cons, List.not_mem_nil, or_false] at hd
  rcases hd with rfl | rfl | rfl | rfl | rfl | rfl <;> exact ⟨_, rfl⟩

theorem color (c : Color) : Shows [] [.color c] := by
  refine of_isStill ?_ rfl
  have hspace : ∀ n, isSpace (Text.hexDigit n) = false := by decide
  have hvisible : visible (c.digits ++ [')']) = c.digits ++ [')'] := by
    refine List.filter_eq_self.mpr fun d hd => ?_
    rcases List.mem_append.mp hd with hd | hd
    · obtain ⟨n, rfl⟩ := exists_hexDigit c d hd
      rw [hspace]
      rfl
    · rw [List.mem_singleton.mp hd]
      rfl
  rw [Token.text, toList_color, List.append_assoc]
  refine isStill_append rfl ?_
  rw [isStill, hvisible]
  exact isQuiet_hex rfl (by decide) (exists_hexDigit c)

end Shows

/-! ## Icons -/

/-- A text that is the name of an icon, perhaps with a line break behind it. -/
def IconName (s : String) : Prop := Icon.isName (Icon.dropBreak s.toList) = true

/-- A name without the line break that may stand behind it. -/
def unbroken (s : String) : String := String.ofList (Icon.dropBreak s.toList)

theorem all_isPart_of_isName {cs : List Char} (h : Icon.isName cs = true) :
    ∀ c ∈ cs, Icon.isPart c = true := by
  cases cs with
  | nil => exact nofun
  | cons c cs =>
      simp only [Icon.isName, Bool.and_eq_true] at h
      have hc : Icon.isPart c = true := by rw [Icon.isPart, h.1, Bool.true_or]
      exact List.forall_mem_cons.mpr ⟨hc, List.all_eq_true.mp h.2⟩

/-- A form has a character that no name has, and what ends a name is in no form. -/
theorem differ_name {key cs ds : List Char} {d : Char} (hcs : ∀ c ∈ cs, Icon.isPart c = true)
    (hkey : ∃ k ∈ key, Icon.isPart k = false) (hd : d ∉ key) :
    differ key (cs ++ d :: ds) = true := by
  induction key generalizing cs with
  | nil => obtain ⟨k, hk, -⟩ := hkey; cases hk
  | cons k key ih =>
      obtain ⟨hdk, hd⟩ := not_or.mp (mt List.mem_cons.mpr hd)
      cases cs with
      | nil => simp [differ, Ne.symm hdk]
      | cons c cs =>
          obtain ⟨hc, hcs⟩ := List.forall_mem_cons.mp hcs
          rw [List.cons_append, differ, Bool.or_eq_true, decide_eq_true_eq]
          by_cases hkc : k = c
          · refine .inr (ih hcs ?_ hd)
            obtain ⟨k', hk', hpart⟩ := hkey
            rcases List.mem_cons.mp hk' with rfl | hk'
            · rw [hkc, hc] at hpart
              cases hpart
            · exact ⟨k', hk', hpart⟩
          · exact .inl hkc

theorem isQuiet_name {cs ds : List Char} {d : Char} (hcs : ∀ c ∈ cs, Icon.isPart c = true)
    (hd : d = ',' ∨ d = ')') (hds : isQuiet (d :: ds) = true) :
    isQuiet (cs ++ d :: ds) = true := by
  have hstarts : ∀ start ∈ starts, (∃ k ∈ start, Icon.isPart k = false) ∧ d ∉ start := by
    have hall : (starts.all fun start =>
        (start.any fun k => !Icon.isPart k) && !start.contains d) = true := by
      rcases hd with rfl | rfl <;> rfl
    simpa [List.all_eq_true] using hall
  induction cs with
  | nil => exact hds
  | cons c cs ih =>
      refine isQuiet_cons_iff.mpr ⟨?_, ih (List.forall_mem_cons.mp hcs).2⟩
      refine List.all_eq_true.mpr fun start hstart => ?_
      obtain ⟨hpart, hd⟩ := hstarts start hstart
      exact @differ_name _ (c :: cs) _ _ hcs hpart hd

theorem nameChars_of_isPart {cs : List Char} {d : Char} (hcs : ∀ c ∈ cs, Icon.isPart c = true)
    (hd : Icon.isPart d = false) (rest : List Lexeme) :
    nameChars (cs.map .code ++ .code d :: rest) = cs := by
  induction cs with
  | nil => simp [nameChars, hd]
  | cons c cs ih =>
      obtain ⟨hc, hcs⟩ := List.forall_mem_cons.mp hcs
      simp [nameChars, hc, ih hcs]

/-- The visible characters of an icon's name. -/
theorem visible_iconName {s : String} (h : IconName s) :
    visible s.toList = Icon.dropBreak s.toList := by
  have hpart := all_isPart_of_isName h
  have hvisible {cs : List Char} (hcs : ∀ c ∈ cs, Icon.isPart c = true) : visible cs = cs :=
    visible_eq_self rfl hcs
  rw [Icon.dropBreak] at hpart ⊢
  split
  · rename_i hlast
    rw [if_pos hlast] at hpart
    obtain ⟨cs, hcs⟩ := List.getLast?_eq_some_iff.mp hlast
    rw [hcs, List.dropLast_concat] at hpart ⊢
    rw [visible, List.filter_append]
    exact (List.append_nil _).trans (hvisible hpart)
  · rename_i hlast
    rw [if_neg hlast] at hpart
    exact hvisible hpart

theorem lexemes_icon {s : String} (h : IconName s) :
    (Token.icon s).lexemes = ("Icons.".toList ++ Icon.dropBreak s.toList).map .code := by
  have htext : (Token.icon s).lexemes = (icon s).toList.flatMap charLexemes := rfl
  rw [htext, toList_icon, flatMap_charLexemes, visible, List.filter_append]
  exact congrArg (fun cs => ("Icons.".toList ++ cs).map Lexeme.code) (visible_iconName h)

/-- An icon in front of a comma or a parenthesis. -/
theorem Shows.icon {s : String} {d : Char} {ds : List Char} (hs : IconName s)
    (hd : d = ',' ∨ d = ')') (hds : isStill (d :: ds) = true) :
    Shows [.icon (unbroken s)] [.icon s, .code (String.ofList (d :: ds))] := by
  have hpart := all_isPart_of_isName hs
  have hend : isSpace d = false ∧ Icon.isPart d = false := by
    rcases hd with rfl | rfl <;> decide
  have hbehind : visible (d :: ds) = d :: visible ds := by
    rw [visible, List.filter_cons, hend.1]
    rfl
  rw [isStill, hbehind] at hds
  have hquiet : isQuiet ("cons.".toList ++ (Icon.dropBreak s.toList ++ d :: visible ds)) = true :=
    isQuiet_append rfl (isQuiet_name hpart hd hds)
  intro rest
  have hlexemes : rowLexemes [.icon s, .code (String.ofList (d :: ds))] ++ rest =
      ('I' :: ("cons.".toList ++ (Icon.dropBreak s.toList ++ d :: visible ds))).map .code ++
        rest := by
    rw [rowLexemes, List.flatMap_cons, List.flatMap_singleton, lexemes_icon hs, lexemes_code,
      hbehind, ← List.map_append, List.append_assoc]
    rfl
  have hname : sightAt? (('I' :: ("cons.".toList ++ (Icon.dropBreak s.toList ++
      d :: visible ds))).map .code ++ rest) = some (.icon (unbroken s)) := by
    have := nameChars_of_isPart hpart hend.2 ((visible ds).map .code ++ rest)
    simp [sightAt?, iconAt?, dropCode?, this, unbroken]
  rw [List.map_cons, List.cons_append] at hlexemes hname
  rw [hlexemes, sights, hname, sights_of_isQuiet hquiet]
  rfl

end ScreenDesign.Dart
