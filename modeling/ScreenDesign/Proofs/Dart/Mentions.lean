import ScreenDesign.Proofs.Dart.Words

/-!
# Mentions of classes and state

Some words of a program belong together across its parts.  A class is declared behind `class`,
and other places refer to it behind `State` and `createState`.  A state variable begins with an
underscore; a widget shows it behind the key `value` and sets it in a call of `setState`.
`mentions` reads all of these off the words of source text.

All other words are ordinary.  Most layouts have no others (`Ordinary`), which is checked by
evaluation on their fixed source text.  The characters of a literal are in no word but their own,
those of an icon stand behind a dot, and those of a number or a color begin no name that matters.
Layouts with mentions have a lemma for each way of building (`Mentions`).
-/

namespace ScreenDesign.Dart

open Layout

/-! ## Reading -/

/-- What source text says about its classes and its state. -/
inductive Mention where
  /-- A class is declared. -/
  | declares (name : String)
  /-- A class is the widget of a `State`. -/
  | stateOf (name : String)
  /-- A class is what `createState` makes. -/
  | creates (name : String)
  /-- A word is given for the key `value`. -/
  | value (w : Word)
  /-- A word is given for the key `groupValue`. -/
  | group (w : Word)
  /-- A name with an underscore in front is set in a call of `setState`. -/
  | sets (name : String)
  /-- A name with an underscore in front is there for any other reason. -/
  | names (name : String)
  deriving DecidableEq

/-- The name that declares a class. -/
def classKey : List Char := ['c', 'l', 'a', 's', 's']

/-- The name of the states of widgets. -/
def stateKey : List Char := ['S', 't', 'a', 't', 'e']

/-- The name of the method that makes a state. -/
def createKey : List Char := ['c', 'r', 'e', 'a', 't', 'e', 'S', 't', 'a', 't', 'e']

/-- The key of what a control shows. -/
def valueKey : List Char := ['v', 'a', 'l', 'u', 'e']

/-- The key of what is chosen in a group. -/
def groupKey : List Char := ['g', 'r', 'o', 'u', 'p', 'V', 'a', 'l', 'u', 'e']

/-- The names behind which something is mentioned. -/
def reserved : List (List Char) := [classKey, stateKey, createKey, valueKey, groupKey]

/-- Whether a name begins with an underscore. -/
def isPrivate (cs : List Char) : Bool := cs.head? = some '_'

/-- The words behind some signs. -/
def dropSigns? : List Char → List Word → Option (List Word)
  | [], ws => some ws
  | c :: cs, .sign d :: ws => if c = d then dropSigns? cs ws else none
  | _ :: _, _ => none

/-- The name at the start of words. -/
def nameAt? : List Word → Option String
  | .name cs :: _ => some (String.ofList cs)
  | _ => none

/-- The words in front of what `setState` does, the last one first. -/
def setKey : List Word :=
  [.sign '\x7b', .sign ')', .sign '(', .sign '(', .name ['s', 'e', 't', 'S', 't', 'a', 't', 'e']]

/-- What a name mentions, with the words in front of it, the last one first, and those behind. -/
def mentionOf? (before : List Word) (cs : List Char) (behind : List Word) : Option Mention :=
  if cs = classKey then (nameAt? behind).map .declares
  else if cs = stateKey then ((dropSigns? ['<'] behind).bind nameAt?).map .stateOf
  else if cs = createKey then ((dropSigns? ['(', ')', '=', '>'] behind).bind nameAt?).map .creates
  else if cs = valueKey then ((dropSigns? [':'] behind).bind List.head?).map .value
  else if cs = groupKey then ((dropSigns? [':'] behind).bind List.head?).map .group
  else if isPrivate cs then
    if before.take 5 = setKey ∧ (dropSigns? ['='] behind).isSome then
      some (.sets (String.ofList cs))
    else some (.names (String.ofList cs))
  else none

/-- The mentions of words that come after others. -/
def mentionsAfter (before : List Word) : List Word → List Mention
  | [] => []
  | .name cs :: ws => (mentionOf? before cs ws).toList ++ mentionsAfter (.name cs :: before) ws
  | w :: ws => mentionsAfter (w :: before) ws

/-- The mentions of words, in order. -/
def mentions (ws : List Word) : List Mention := mentionsAfter [] ws

example : mentions (words "class _AState extends State<A> \x7b") =
    [.declares "_AState", .names "_AState", .stateOf "A"] := by decide

/-! ## Words -/

/-- Whether a word mentions nothing. -/
def Word.isOrdinary : Word → Bool
  | .name cs => !reserved.contains cs && !isPrivate cs
  | _ => true

/-- The words of some code. -/
def textWords (cs : List Char) : List Word := wordsAfter [] (cs.map spacedChar)

/-- Whether all words of some code are ordinary. -/
def isUsual (cs : List Char) : Bool := (textWords cs).all Word.isOrdinary

/-- Whether no name can run over the end of one text, or over the start of another one. -/
def cuts (before after : List Char) : Bool :=
  before.getLast?.all (!isNamePart ·) && after.head?.all (!isNamePart ·)

theorem isPart_spacedChar (c : Char) : (spacedChar c).isPart = isNamePart c := by
  rw [spacedChar, Lexeme.isPart]
  cases hspace : isSpace c with
  | false => rfl
  | true =>
      simp only [isSpace, Bool.or_eq_true, decide_eq_true_eq] at hspace
      rcases hspace with ((rfl | rfl) | rfl) | rfl <;> rfl

theorem head?_isPart {cs : List Char} (h : cs.head?.all (!isNamePart ·) = true) :
    ∀ l ∈ (cs.map spacedChar).head?, l.isPart = false := by
  intro l hl
  cases cs with
  | nil => cases hl
  | cons c cs =>
      cases hl
      rw [isPart_spacedChar]
      simpa using h

/-- Words do not run over a place behind which a text begins with no part of a name. -/
theorem wordsAfter_text (ls : List Lexeme) {cs : List Char}
    (h : cs.head?.all (!isNamePart ·) = true) :
    wordsAfter [] (ls ++ cs.map spacedChar) = wordsAfter [] ls ++ textWords cs :=
  wordsAfter_append (head?_isPart h) [] ls

/-- Nor over the end of a text that ends with no part of a name. -/
theorem text_wordsAfter {cs : List Char} (h : cs.getLast?.all (!isNamePart ·) = true)
    (ls : List Lexeme) :
    wordsAfter [] (cs.map spacedChar ++ ls) = textWords cs ++ wordsAfter [] ls := by
  rcases List.eq_nil_or_concat cs with rfl | ⟨cs, c, rfl⟩
  · rfl
  · have hc : (spacedChar c).isPart = false := by
      rw [isPart_spacedChar]
      simpa using h
    rw [textWords, List.concat_eq_append, List.map_append, List.append_assoc, List.map_singleton]
    exact wordsAfter_concat hc [] _ ls

/-! ## Rows -/

theorem rowWords_code (cs : List Char) : rowWords [.code (String.ofList cs)] = textWords cs := by
  have hspaced : (Token.code (String.ofList cs)).spaced =
      (String.ofList cs).toList.map spacedChar := rfl
  rw [rowWords, List.flatMap_singleton, hspaced, String.toList_ofList, textWords]

theorem rowWords_literal (s : String) : rowWords [.literal s] = [.literal s] := rfl

/-- Code that ends in no part of a name, in front of other tokens. -/
theorem rowWords_ahead {cs : List Char} (h : cs.getLast?.all (!isNamePart ·) = true)
    (ts : List Token) :
    rowWords (.code (String.ofList cs) :: ts) = textWords cs ++ rowWords ts := by
  have hspaced : (Token.code (String.ofList cs) :: ts).flatMap Token.spaced =
      cs.map spacedChar ++ ts.flatMap Token.spaced := by
    simp [Token.spaced, Token.text]
  rw [rowWords, hspaced]
  exact text_wordsAfter h _

/-- Code that begins with no part of a name, behind other tokens. -/
theorem rowWords_behind (ts : List Token) {c : Char} {cs : List Char} (h : isNamePart c = false)
    (us : List Token) :
    rowWords (ts ++ .code (String.ofList (c :: cs)) :: us) =
      rowWords ts ++ rowWords (.code (String.ofList (c :: cs)) :: us) := by
  have hhead : ∀ l ∈ ((Token.code (String.ofList (c :: cs)) :: us).flatMap Token.spaced).head?,
      l.isPart = false := by
    intro l hl
    have hspaced : (Token.code (String.ofList (c :: cs)) :: us).flatMap Token.spaced =
        spacedChar c :: (cs.map spacedChar ++ us.flatMap Token.spaced) := by
      simp [Token.spaced, Token.text]
    rw [hspaced] at hl
    cases hl
    rw [isPart_spacedChar, h]
  rw [rowWords, List.flatMap_append]
  exact wordsAfter_append hhead [] _

theorem rowWords_comma (ts : List Token) :
    rowWords (ts ++ [.code ","]) = rowWords ts ++ [.sign ','] :=
  @rowWords_behind ts ',' [] rfl []

theorem rowWords_key (key : String) (ts : List Token) :
    rowWords (.code (key ++ ": ") :: ts) = textWords (key ++ ": ").toList ++ rowWords ts := by
  have hlast : (key ++ ": ").toList.getLast?.all (!isNamePart ·) = true := by
    rw [String.toList_append, List.getLast?_append]
    rfl
  rw [← rowWords_ahead hlast, String.ofList_toList]

/-- A row of some code, a token and some code again. -/
theorem rowWords_around {cs ds : List Char} (h : cuts cs ds = true) (t : Token) :
    rowWords [.code (String.ofList cs), t, .code (String.ofList ds)] =
      textWords cs ++ (rowWords [t] ++ textWords ds) := by
  rw [cuts, Bool.and_eq_true] at h
  have hrow : [Token.code (String.ofList cs), t, .code (String.ofList ds)].flatMap Token.spaced =
      cs.map spacedChar ++ (t.spaced ++ ds.map spacedChar) := by
    simp [Token.spaced, Token.text]
  rw [rowWords, hrow, text_wordsAfter h.1, wordsAfter_text _ h.2, rowWords, List.flatMap_singleton]

/-- Characters of names without anything else are one name. -/
theorem textWords_name {cs : List Char} (h : cs.all isNamePart = true) (hne : cs ≠ []) :
    textWords cs = [.name cs] := by
  have hopen : ∀ begun, wordsAfter begun (cs.map spacedChar) = closeName (begun ++ cs) := by
    clear hne
    induction cs with
    | nil => exact fun begun => congrArg closeName (List.append_nil begun).symm
    | cons c cs ih =>
        intro begun
        rw [List.all_cons, Bool.and_eq_true] at h
        have hspace : isSpace c = false := isSpace_eq_false rfl h.1
        rw [List.map_cons, spacedChar, hspace, wordsAfter]
        simp only [Bool.false_eq_true, if_false]
        rw [if_pos h.1, ih h.2, List.append_assoc]
        rfl
  rw [textWords, hopen, closeName, List.nil_append]
  cases cs with
  | nil => exact absurd rfl hne
  | cons c cs => rfl

/-- A closed name begins as the open one did. -/
theorem head_of_mem_closeName {begun cs : List Char} (h : .name cs ∈ closeName begun) :
    ∃ c, cs.head? = some c ∧ begun.head? = some c := by
  cases begun with
  | nil => cases h
  | cons c begun =>
      have hname : cs = c :: begun := Word.name.inj (List.mem_singleton.mp h)
      exact ⟨c, hname ▸ rfl, rfl⟩

theorem name_notMem_signWord (cs : List Char) (c : Char) : .name cs ∉ signWord c := by
  intro h
  rw [signWord] at h
  split at h
  · cases h
  · cases List.mem_singleton.mp h

/-- A name in a word begins with a character of the text, or of the name read before. -/
theorem head_of_mem_wordsAfter {ls : List Lexeme} {begun : List Char} {cs : List Char}
    (h : .name cs ∈ wordsAfter begun ls) :
    ∃ c, cs.head? = some c ∧ (begun.head? = some c ∨ .code c ∈ ls) := by
  induction ls generalizing begun with
  | nil =>
      obtain ⟨c, hc, hbegun⟩ := head_of_mem_closeName h
      exact ⟨c, hc, .inl hbegun⟩
  | cons l ls ih =>
      have hnow (hmem : .name cs ∈ closeName begun) :
          ∃ c, cs.head? = some c ∧ (begun.head? = some c ∨ .code c ∈ l :: ls) := by
        obtain ⟨c, hc, hbegun⟩ := head_of_mem_closeName hmem
        exact ⟨c, hc, .inl hbegun⟩
      have hlater (hmem : .name cs ∈ wordsAfter [] ls) :
          ∃ c, cs.head? = some c ∧ (begun.head? = some c ∨ .code c ∈ l :: ls) := by
        obtain ⟨c, hc, hbegun | hmem⟩ := ih hmem
        · cases hbegun
        · exact ⟨c, hc, .inr (List.mem_cons_of_mem l hmem)⟩
      cases l with
      | code d =>
          rw [wordsAfter] at h
          split at h
          · obtain ⟨c, hc, hbegun | hmem⟩ := ih h
            · refine ⟨c, hc, ?_⟩
              cases begun with
              | nil =>
                  cases hbegun
                  exact .inr List.mem_cons_self
              | cons b begun => exact .inl hbegun
            · exact ⟨c, hc, .inr (List.mem_cons_of_mem _ hmem)⟩
          · rcases List.mem_append.mp h with h | h
            · exact hnow h
            rcases List.mem_append.mp h with h | h
            · exact absurd h (name_notMem_signWord cs d)
            · exact hlater h
      | literal s =>
          rw [wordsAfter] at h
          rcases List.mem_append.mp h with h | h
          · exact hnow h
          · rcases List.mem_cons.mp h with h | h
            · cases h
            · exact hlater h
      | comment s =>
          rw [wordsAfter] at h
          rcases List.mem_append.mp h with h | h
          · exact hnow h
          · exact hlater h

/-! ## Ordinary tokens -/

/-- Tokens without other than ordinary words. -/
def OrdinaryRow (ts : List Token) : Prop := ∀ w ∈ rowWords ts, w.isOrdinary = true

/-- Whether a character can be the first one of a name that is not ordinary. -/
def isHead (c : Char) : Bool := ['c', 'S', 'v', 'g', '_'].contains c

theorem isOrdinary_of_head {cs : List Char} {c : Char} (hc : cs.head? = some c)
    (h : isHead c = false) : (Word.name cs).isOrdinary = true := by
  obtain ⟨ds, rfl⟩ : ∃ ds, cs = c :: ds := by
    cases cs with
    | nil => cases hc
    | cons d ds =>
        cases hc
        exact ⟨ds, rfl⟩
  simp only [isHead, List.contains_eq_mem, decide_eq_false_iff_not, List.mem_cons,
    List.not_mem_nil, or_false, not_or] at h
  simp [Word.isOrdinary, reserved, classKey, stateKey, createKey, valueKey, groupKey, isPrivate, h]

/-- Code without these characters has only ordinary words. -/
theorem isUsual_of_heads {cs : List Char} (h : ∀ c ∈ cs, isHead c = false) :
    isUsual cs = true := by
  refine List.all_eq_true.mpr fun w hw => ?_
  cases w with
  | name ds =>
      obtain ⟨c, hc, hnone | hmem⟩ := head_of_mem_wordsAfter hw
      · cases hnone
      · obtain ⟨d, hd, heq⟩ := List.mem_map.mp hmem
        refine isOrdinary_of_head hc ?_
        rw [spacedChar, Lexeme.code.injEq] at heq
        split at heq
        · subst heq
          rfl
        · exact heq ▸ h d hd
  | sign c => rfl
  | literal s => rfl

theorem ordinary_of_isUsual {t : Token} (h : isUsual t.text.toList = true)
    (hspaced : t.spaced = t.text.toList.map spacedChar) : OrdinaryRow [t] := by
  rw [OrdinaryRow, rowWords, List.flatMap_singleton, hspaced]
  exact List.all_eq_true.mp h

namespace OrdinaryRow

theorem code {cs : List Char} (h : isUsual cs = true) : OrdinaryRow [.code (String.ofList cs)] := by
  rw [OrdinaryRow, rowWords_code]
  exact List.all_eq_true.mp h

theorem literal (s : String) : OrdinaryRow [.literal s] := List.forall_mem_singleton.mpr rfl

theorem remark (s : String) : OrdinaryRow [.remark s] := nofun

theorem number (x : Binary64) : OrdinaryRow [.number x] := by
  refine ordinary_of_isUsual (isUsual_of_heads fun c hc => ?_) rfl
  have hnumeric : isNumeric c = true := List.all_eq_true.mp x.all_isNumeric_onePlace c hc
  rw [← Bool.not_eq_true]
  intro hhead
  simp only [isHead, List.contains_eq_mem, decide_eq_true_eq, List.mem_cons, List.not_mem_nil,
    or_false] at hhead
  rcases hhead with rfl | rfl | rfl | rfl | rfl <;> cases hnumeric

theorem color (c : Color) : OrdinaryRow [.color c] := by
  refine ordinary_of_isUsual (isUsual_of_heads fun d hd => ?_) rfl
  have hdigit : ∀ n, isHead (Text.hexDigit n) = false := by decide
  rw [Token.text, toList_color, List.mem_append, List.mem_append] at hd
  rcases hd with (hd | hd) | hd
  · have hfixed : (['C', 'o', 'l', 'o', 'r', '(', '0', 'x', 'F', 'F'].all (!isHead ·)) = true := rfl
    simpa using List.all_eq_true.mp hfixed d hd
  · obtain ⟨n, rfl⟩ := Shows.exists_hexDigit c d hd
    exact hdigit n
  · rw [List.mem_singleton.mp hd]
    rfl

/-- The name of an icon stands behind a dot. -/
theorem icon {s : String} (h : IconName s) : OrdinaryRow [.icon s] := by
  have hpart := all_isPart_of_isName h
  have hname : ∀ c ∈ Icon.dropBreak s.toList, isNamePart c = true := by
    intro c hc
    have hc := hpart c hc
    simp only [Icon.isPart, Icon.isStart, Bool.or_eq_true, decide_eq_true_eq] at hc
    rcases hc with (hletter | rfl) | hdigit
    · have hcase : (c.isUpper || c.isLower) = true := by rw [hletter, Bool.or_true]
      have halpha : c.isAlpha = true := hcase
      simp [isNamePart, Text.isAlphanumeric, halpha]
    · rfl
    · simp [isNamePart, Text.isAlphanumeric, hdigit]
  have hall :
      (['I', 'c', 'o', 'n', 's', '.'] ++ Icon.dropBreak s.toList).all isNamePart = true := by
    rw [List.all_append, List.all_eq_true.mpr hname]
    rfl
  have hwords : textWords (['I', 'c', 'o', 'n', 's', '.'] ++ s.toList) =
      [.name (['I', 'c', 'o', 'n', 's', '.'] ++ Icon.dropBreak s.toList)] := by
    rw [← textWords_name hall (List.cons_ne_nil _ _), Icon.dropBreak]
    split
    · rename_i hlast
      obtain ⟨cs, hcs⟩ := List.getLast?_eq_some_iff.mp hlast
      rw [hcs, List.dropLast_concat, ← List.append_assoc, textWords, List.map_append]
      exact (@wordsAfter_text _ ['\n'] rfl).trans (List.append_nil _)
    · rfl
  have hrow : rowWords [.icon s] = textWords (['I', 'c', 'o', 'n', 's', '.'] ++ s.toList) := by
    rw [rowWords, List.flatMap_singleton, ← toList_icon]
    rfl
  rw [OrdinaryRow, hrow, hwords]
  exact List.forall_mem_singleton.mpr (isOrdinary_of_head rfl rfl)

/-- Code that ends in a bracket or the like. -/
theorem opening {cs ds : List Char} (h : isUsual (cs ++ ds) = true) :
    OrdinaryRow [.code (String.ofList cs ++ String.ofList ds)] := by
  rw [← String.ofList_append]
  exact code h

/-- Code in three pieces. -/
theorem three {as bs cs : List Char} (h : isUsual (as ++ bs ++ cs) = true) :
    OrdinaryRow [.code (String.ofList as ++ String.ofList bs ++ String.ofList cs)] := by
  rw [← String.ofList_append]
  exact opening h

/-- Code in four pieces. -/
theorem four {as bs cs ds : List Char} (h : isUsual (as ++ bs ++ cs ++ ds) = true) :
    OrdinaryRow
      [.code (String.ofList as ++ String.ofList bs ++ String.ofList cs ++ String.ofList ds)] := by
  rw [← String.ofList_append]
  exact three h

/-- Code in four pieces, the two in the middle put together first. -/
theorem nested {as bs cs ds : List Char} (h : isUsual (as ++ bs ++ cs ++ ds) = true) :
    OrdinaryRow
      [.code (String.ofList as ++ (String.ofList bs ++ String.ofList cs) ++ String.ofList ds)] := by
  rw [← String.append_assoc]
  exact four h

/-- A token in front of code that begins with no part of a name. -/
theorem front {t : Token} {c : Char} {cs : List Char} {us : List Token} (ht : OrdinaryRow [t])
    (hc : isNamePart c = false) (hus : OrdinaryRow (.code (String.ofList (c :: cs)) :: us)) :
    OrdinaryRow (t :: .code (String.ofList (c :: cs)) :: us) := by
  rw [OrdinaryRow, ← List.singleton_append, rowWords_behind [t] hc, List.forall_mem_append]
  exact ⟨ht, hus⟩

/-- Tokens in front of a comma. -/
theorem comma {ts : List Token} (h : OrdinaryRow ts) : OrdinaryRow (ts ++ [.code ","]) := by
  rw [OrdinaryRow, rowWords_comma, List.forall_mem_append]
  exact ⟨h, List.forall_mem_singleton.mpr rfl⟩

/-- A token between code. -/
theorem around {cs ds : List Char} {t : Token}
    (h : (isUsual cs && isUsual ds && cuts cs ds) = true) (ht : OrdinaryRow [t]) :
    OrdinaryRow [.code (String.ofList cs), t, .code (String.ofList ds)] := by
  rw [Bool.and_eq_true, Bool.and_eq_true] at h
  rw [OrdinaryRow, rowWords_around h.2, List.forall_mem_append, List.forall_mem_append]
  exact ⟨List.all_eq_true.mp h.1.1, ht, List.all_eq_true.mp h.1.2⟩

end OrdinaryRow

/-! ## Layouts -/

section

variable (key : String) (l : Layout) (body : List Layout)

@[simp] theorem words_line (ts : List Token) : (Layout.line ts).words = rowWords ts :=
  List.flatMap_singleton ..

@[simp] theorem words_block (opening closing : List Token) :
    (Layout.block opening body closing).words =
      rowWords opening ++ (body.flatMap Layout.words ++ rowWords closing) := by
  simp only [Layout.words, Layout.rows, rowsAll_eq, List.flatMap_cons, List.flatMap_append,
    List.flatMap_assoc, List.flatMap_nil, List.append_nil]
  rfl

@[simp] theorem words_item : (l.wrap [] [.code ","]).words = l.words ++ [.sign ','] := by
  cases l <;> simp [wrap, rowWords_comma]

@[simp] theorem words_attach :
    (attach key l).words = textWords (key ++ ": ").toList ++ (l.words ++ [.sign ',']) := by
  cases l <;> simp [attach, wrap, rowWords_comma, rowWords_key]

end

/-- A layout without other than ordinary words. -/
def Ordinary (l : Layout) : Prop := ∀ w ∈ l.words, w.isOrdinary = true

/-- The words of layouts are ordinary if those of each one are. -/
theorem ordinary_all {ls : List Layout} (h : ls.Forall Ordinary) :
    ∀ w ∈ ls.flatMap Layout.words, w.isOrdinary = true := by
  intro w hw
  obtain ⟨l, hl, hw⟩ := List.mem_flatMap.mp hw
  exact List.forall_iff_forall_mem.mp h l hl w hw

namespace Ordinary

variable {l : Layout} {ls body : List Layout} {cs ds : List Char}

theorem line {ts : List Token} (h : OrdinaryRow ts) : Ordinary (.line ts) := by
  rw [Ordinary, words_line]
  exact h

theorem row (h : isUsual cs = true) : Ordinary (Layout.row (String.ofList cs)) := .line (.code h)

theorem textRow {s : String} (h : (isUsual cs && isUsual ds && cuts cs ds) = true) :
    Ordinary (Dart.textRow (String.ofList cs) s (String.ofList ds)) :=
  .line (.around h (.literal s))

theorem colorRow {c : Color} (h : (isUsual cs && isUsual ds && cuts cs ds) = true) :
    Ordinary (Dart.colorRow (String.ofList cs) c (String.ofList ds)) := .line (.around h (.color c))

theorem block {opening closing : List Token} (hopening : OrdinaryRow opening)
    (hbody : body.Forall Ordinary) (hclosing : OrdinaryRow closing) :
    Ordinary (.block opening body closing) := by
  rw [Ordinary, words_block, List.forall_mem_append, List.forall_mem_append]
  exact ⟨hopening, ordinary_all hbody, hclosing⟩

theorem call (h : isUsual (cs ++ ['(']) = true) (hbody : body.Forall Ordinary) :
    Ordinary (Layout.call (String.ofList cs) body) :=
  block (.opening h) hbody (@OrdinaryRow.code [')'] rfl)

theorem argument (h : isUsual (cs ++ ['(']) = true) (hbody : body.Forall Ordinary) :
    Ordinary (Layout.argument (String.ofList cs) body) :=
  block (.opening h) hbody (@OrdinaryRow.code [')', ','] rfl)

theorem braces (hhead : isUsual (cs ++ ['\x7b']) = true) (hbody : body.Forall Ordinary)
    (htail : isUsual ('\x7d' :: ds) = true) :
    Ordinary (Layout.braces (String.ofList cs) body (String.ofList ds)) :=
  block (.opening hhead) hbody (@OrdinaryRow.opening ['\x7d'] ds htail)

theorem brackets (h : isUsual (cs ++ [':', ' ', '[']) = true) (hbody : body.Forall Ordinary) :
    Ordinary (Layout.brackets (String.ofList cs) body) :=
  block (.opening h) hbody (@OrdinaryRow.code [']', ','] rfl)

theorem item (h : Ordinary l) : Ordinary (l.wrap [] [.code ","]) := by
  rw [Ordinary, words_item, List.forall_mem_append]
  exact ⟨h, List.forall_mem_singleton.mpr rfl⟩

theorem attach (hkey : isUsual (cs ++ [':', ' ']) = true) (h : Ordinary l) :
    Ordinary (Layout.attach (String.ofList cs) l) := by
  have hchars : (String.ofList cs ++ ": ").toList = cs ++ [':', ' '] := by simp
  rw [Ordinary, words_attach, hchars, List.forall_mem_append, List.forall_mem_append]
  exact ⟨List.all_eq_true.mp hkey, h, List.forall_mem_singleton.mpr rfl⟩

theorem children (h : ls.Forall Ordinary) : Ordinary (Layout.children ls) :=
  .brackets rfl ((List.forall_map_iff _).mpr (h.imp fun _ hl => item hl))

end Ordinary

/-! ## Mentions -/

/-- Words that mention something, whatever stands around them. -/
def Mentions (out : List Mention) (ws : List Word) : Prop :=
  ∀ before rest,
    mentionsAfter before (ws ++ rest) = out ++ mentionsAfter (ws.reverse ++ before) rest

namespace Mentions

variable {out out' : List Mention} {ws vs : List Word} {l : Layout} {ls body : List Layout}
  {cs ds : List Char}

theorem nil : Mentions [] [] := fun _ _ => rfl

theorem append (hws : Mentions out ws) (hvs : Mentions out' vs) :
    Mentions (out ++ out') (ws ++ vs) := by
  intro before rest
  rw [List.append_assoc, hws, hvs, List.reverse_append, List.append_assoc, List.append_assoc]

/-- An ordinary word is passed over. -/
theorem mentionsAfter_ordinary {w : Word} (hw : w.isOrdinary = true) (before ws : List Word) :
    mentionsAfter before (w :: ws) = mentionsAfter (w :: before) ws := by
  cases w with
  | name cs =>
      simp only [Word.isOrdinary, reserved, Bool.and_eq_true, Bool.not_eq_true',
        List.contains_eq_mem, decide_eq_false_iff_not, List.mem_cons, List.not_mem_nil,
        or_false, not_or] at hw
      simp [mentionsAfter, mentionOf?, hw]
  | sign c => rfl
  | literal s => rfl

/-- Ordinary words mention nothing. -/
theorem ordinary (h : ∀ w ∈ ws, w.isOrdinary = true) : Mentions [] ws := by
  intro before rest
  induction ws generalizing before with
  | nil => rfl
  | cons w ws ih =>
      obtain ⟨hw, hws⟩ := List.forall_mem_cons.mp h
      rw [List.cons_append, mentionsAfter_ordinary hw, ih hws, List.reverse_cons,
        List.append_assoc]
      rfl

theorem left (hws : ∀ w ∈ ws, w.isOrdinary = true) (hvs : Mentions out vs) :
    Mentions out (ws ++ vs) := (ordinary hws).append hvs

theorem right (hws : Mentions out ws) (hvs : ∀ w ∈ vs, w.isOrdinary = true) :
    Mentions out (ws ++ vs) := by
  have := hws.append (ordinary hvs)
  rwa [List.append_nil] at this

/-- What words mention on their own. -/
theorem eq (h : Mentions out ws) : mentions ws = out := by
  have := h [] []
  rwa [List.append_nil, List.append_nil, mentionsAfter, List.append_nil] at this

/-! ### Layouts -/

theorem of_ordinary (h : Ordinary l) : Mentions [] l.words := ordinary h

theorem cons (hl : Mentions out l.words) (hls : Mentions out' (ls.flatMap Layout.words)) :
    Mentions (out ++ out') ((l :: ls).flatMap Layout.words) := hl.append hls

theorem all (h : ls.Forall Ordinary) : Mentions [] (ls.flatMap Layout.words) :=
  ordinary (ordinary_all h)

/-- There are mentions in the first layout only. -/
theorem first (hl : Mentions out l.words) (hls : ls.Forall Ordinary) :
    Mentions out ((l :: ls).flatMap Layout.words) := hl.right (ordinary_all hls)

theorem only (hl : Mentions out l.words) : Mentions out ([l].flatMap Layout.words) :=
  hl.first trivial

/-- There are no mentions in the first layout. -/
theorem later (hl : Ordinary l) (hls : Mentions out (ls.flatMap Layout.words)) :
    Mentions out ((l :: ls).flatMap Layout.words) := hls.left hl

theorem map {α : Type} {f : α → Layout} {g : α → List Mention} {as : List α}
    (h : ∀ a, Mentions (g a) (f a).words) :
    Mentions (as.flatMap g) ((as.map f).flatMap Layout.words) := by
  induction as with
  | nil => exact nil
  | cons a as ih => exact cons (h a) ih

theorem block {opening closing : List Token} (hopening : OrdinaryRow opening)
    (hbody : Mentions out (body.flatMap Layout.words)) (hclosing : OrdinaryRow closing) :
    Mentions out (Layout.block opening body closing).words := by
  rw [words_block]
  exact (hbody.right hclosing).left hopening

theorem call (h : isUsual (cs ++ ['(']) = true)
    (hbody : Mentions out (body.flatMap Layout.words)) :
    Mentions out (Layout.call (String.ofList cs) body).words :=
  block (.opening h) hbody (@OrdinaryRow.code [')'] rfl)

theorem argument (h : isUsual (cs ++ ['(']) = true)
    (hbody : Mentions out (body.flatMap Layout.words)) :
    Mentions out (Layout.argument (String.ofList cs) body).words :=
  block (.opening h) hbody (@OrdinaryRow.code [')', ','] rfl)

theorem braces (hhead : isUsual (cs ++ ['\x7b']) = true)
    (hbody : Mentions out (body.flatMap Layout.words)) (htail : isUsual ('\x7d' :: ds) = true) :
    Mentions out (Layout.braces (String.ofList cs) body (String.ofList ds)).words :=
  block (.opening hhead) hbody (@OrdinaryRow.opening ['\x7d'] ds htail)

theorem brackets (h : isUsual (cs ++ [':', ' ', '[']) = true)
    (hbody : Mentions out (body.flatMap Layout.words)) :
    Mentions out (Layout.brackets (String.ofList cs) body).words :=
  block (.opening h) hbody (@OrdinaryRow.code [']', ','] rfl)

theorem item (h : Mentions out l.words) : Mentions out (l.wrap [] [.code ","]).words := by
  rw [words_item]
  exact h.right (List.forall_mem_singleton.mpr rfl)

theorem attach (hkey : isUsual (cs ++ [':', ' ']) = true) (h : Mentions out l.words) :
    Mentions out (Layout.attach (String.ofList cs) l).words := by
  have hchars : (String.ofList cs ++ ": ").toList = cs ++ [':', ' '] := by simp
  rw [words_attach, hchars]
  exact (h.right (List.forall_mem_singleton.mpr rfl)).left (List.all_eq_true.mp hkey)

/-! ### State -/

theorem mentionOf?_private (h : isPrivate cs = true) (before behind : List Word) :
    mentionOf? before cs behind =
      if before.take 5 = setKey ∧ (dropSigns? ['='] behind).isSome then
        some (.sets (String.ofList cs))
      else some (.names (String.ofList cs)) := by
  have hne : cs ∉ reserved := by
    intro hmem
    simp only [reserved, List.mem_cons, List.not_mem_nil, or_false] at hmem
    rcases hmem with rfl | rfl | rfl | rfl | rfl <;> cases h
  simp only [reserved, List.mem_cons, List.not_mem_nil, or_false, not_or] at hne
  simp only [mentionOf?, hne, h, if_false, if_true]

/-- A private name is set if it stands at the start of what `setState` does, in front of an equals
sign. -/
theorem setting (h : isPrivate cs = true)
    (hws : ∀ w ∈ ws, w.isOrdinary = true) :
    Mentions [.sets (String.ofList cs)] (setKey.reverse ++ .name cs :: .sign '=' :: ws) := by
  intro before rest
  have hset : mentionOf? (setKey ++ before) cs (.sign '=' :: (ws ++ rest)) =
      some (.sets (String.ofList cs)) := by
    rw [mentionOf?_private h]
    exact if_pos ⟨rfl, rfl⟩
  have hread : mentionsAfter before (setKey.reverse ++ .name cs :: .sign '=' :: (ws ++ rest)) =
      (mentionOf? (setKey ++ before) cs (.sign '=' :: (ws ++ rest))).toList ++
        mentionsAfter (.sign '=' :: .name cs :: (setKey ++ before)) (ws ++ rest) := rfl
  rw [List.append_assoc, List.cons_append, List.cons_append, hread, hset, ordinary hws]
  simp

end Mentions

end ScreenDesign.Dart
