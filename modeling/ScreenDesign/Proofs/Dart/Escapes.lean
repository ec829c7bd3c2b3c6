import ScreenDesign.Proofs.Dart.Scanning

/-!
# Text literals as an encoding

`literal` writes a text in one pass over its characters.  A literal can also be
written with one replacement after the other over the whole text: first a backslash
in front of each backslash, then one in front of each quote and each dollar sign, and
at last the line breaks and tabs as letters (`replacements`).  Each replacement sees
what the earlier ones have put in, so their order counts.  Both ways agree
(`flatMap_escaped`), since a replacement works on a text part by part
(`applyAll_append`).

* The encoding is undone from left to right (`decode?`), one character or one escape
  at a time.
* The run of backslashes in front of a character says whether it is escaped
  (`slashesAtEnd`).  Each `escaped c` ends with an even run, so the parity of a
  run never depends on what is further left (`odd_slashes_of_split`).
-/

namespace ScreenDesign.Dart

/-! ## Replacement after replacement -/

/-- A text with a backslash and a letter in place of each `c`. -/
def replaceAll (c letter : Char) (cs : List Char) : List Char :=
  cs.flatMap fun d => if d = c then ['\\', letter] else [d]

/-- The characters that are replaced, in order, with the letters of their escapes. -/
def replacements : List (Char × Char) :=
  [('\\', '\\'), ('\x27', '\x27'), ('$', '$'), ('\n', 'n'), ('\r', 'r'), ('\t', 't')]

/-- One replacement after the other. -/
def applyAll (rs : List (Char × Char)) (cs : List Char) : List Char :=
  rs.foldl (fun cs r => replaceAll r.1 r.2 cs) cs

theorem replaceAll_append (c letter : Char) (cs ds : List Char) :
    replaceAll c letter (cs ++ ds) = replaceAll c letter cs ++ replaceAll c letter ds :=
  List.flatMap_append

theorem applyAll_append (rs : List (Char × Char)) (cs ds : List Char) :
    applyAll rs (cs ++ ds) = applyAll rs cs ++ applyAll rs ds := by
  induction rs generalizing cs ds with
  | nil => rfl
  | cons r rs ih =>
      show applyAll rs (replaceAll r.1 r.2 (cs ++ ds)) = _
      rw [replaceAll_append, ih]
      rfl

/-- A character has an escape, or no replacement touches it. -/
theorem mem_replacements_or (c : Char) :
    (∃ letter, (c, letter) ∈ replacements) ∨ ∀ r ∈ replacements, c ≠ r.1 := by
  by_cases h : ∃ r ∈ replacements, c = r.1
  · obtain ⟨⟨d, letter⟩, hmem, rfl⟩ := h
    exact .inl ⟨letter, hmem⟩
  · exact .inr fun r hr hc => h ⟨r, hr, hc⟩

theorem escaped_of_mem : ∀ r ∈ replacements, escaped r.1 = ['\\', r.2] := by decide

theorem escaped_of_untouched {c : Char} (h : ∀ r ∈ replacements, c ≠ r.1) : escaped c = [c] := by
  simp only [replacements, List.forall_mem_cons] at h
  simp [escaped, h]

/-- On a single character the replacements come to its escape.  The backslash that one
of them puts in is safe from the first, which is over by then. -/
theorem applyAll_singleton (c : Char) : applyAll replacements [c] = escaped c := by
  have htable : ∀ r ∈ replacements, applyAll replacements [r.1] = escaped r.1 := by decide
  rcases mem_replacements_or c with ⟨letter, hmem⟩ | hc
  · exact htable (c, letter) hmem
  · rw [escaped_of_untouched hc]
    simp only [replacements, List.forall_mem_cons] at hc
    simp [applyAll, replacements, replaceAll, hc]

theorem flatMap_escaped (cs : List Char) : cs.flatMap escaped = applyAll replacements cs := by
  induction cs with
  | nil => rfl
  | cons c cs ih =>
      rw [List.flatMap_cons, ih, ← applyAll_singleton, ← applyAll_append]
      rfl

/-! ## Decoding -/

/-- The character that a letter behind a backslash stands for. -/
def escapeOf? : Char → Option Char
  | '\\' => some '\\'
  | '\x27' => some '\x27'
  | '$' => some '$'
  | 'n' => some '\n'
  | 'r' => some '\r'
  | 't' => some '\t'
  | _ => none

/-- Whether a character can stand for itself between quotes. -/
def isBare (c : Char) : Bool :=
  c ≠ '\\' && c ≠ '\x27' && c ≠ '$' && c ≠ '\n' && c ≠ '\r'

/-- What a text between quotes stands for, if each of its characters is plain or
belongs to an escape. -/
def decode? : List Char → Option (List Char)
  | [] => some []
  | [c] => if isBare c then some [c] else none
  | c :: letter :: cs =>
      if c = '\\' then
        match escapeOf? letter with
        | some d => (decode? cs).map (d :: ·)
        | none => none
      else if isBare c then (decode? (letter :: cs)).map (c :: ·)
      else none

/-- The text of a literal: it starts and ends with a quote. -/
def readLiteral? (s : String) : Option String :=
  match s.toList with
  | '\x27' :: cs =>
      if cs.getLast? = some '\x27' then (decode? cs.dropLast).map String.ofList else none
  | _ => none

theorem decode?_escape {letter d : Char} (h : escapeOf? letter = some d) (cs : List Char) :
    decode? ('\\' :: letter :: cs) = (decode? cs).map (d :: ·) := by
  simp [decode?, h]

theorem decode?_plain {c : Char} (h : isBare c = true) (cs : List Char) :
    decode? (c :: cs) = (decode? cs).map (c :: ·) := by
  have hc : c ≠ '\\' := by
    rintro rfl
    exact absurd h (by decide)
  cases cs with
  | nil => simp [decode?, h]
  | cons d cs => simp [decode?, h, hc]

/-- A character is written as one escape or as itself. -/
theorem escaped_split (c : Char) :
    (∃ letter, escaped c = ['\\', letter] ∧ escapeOf? letter = some c) ∨
      (escaped c = [c] ∧ isBare c = true) := by
  have htable : ∀ r ∈ replacements, escapeOf? r.2 = some r.1 := by decide
  rcases mem_replacements_or c with ⟨letter, hmem⟩ | hc
  · exact .inl ⟨letter, escaped_of_mem (c, letter) hmem, htable (c, letter) hmem⟩
  · refine .inr ⟨escaped_of_untouched hc, ?_⟩
    simp only [replacements, List.forall_mem_cons] at hc
    simp [isBare, hc]

theorem decode?_flatMap_escaped (cs : List Char) : decode? (cs.flatMap escaped) = some cs := by
  induction cs with
  | nil => rfl
  | cons c cs ih =>
      rw [List.flatMap_cons]
      obtain ⟨letter, hc, hletter⟩ | ⟨hc, hplain⟩ := escaped_split c
      · rw [hc, List.cons_append, List.cons_append, List.nil_append, decode?_escape hletter, ih]
        rfl
      · rw [hc, List.cons_append, List.nil_append, decode?_plain hplain, ih]
        rfl

theorem readLiteral?_literal (s : String) : readLiteral? (literal s) = some s := by
  simp [readLiteral?, literal, literalChars, decode?_flatMap_escaped]

/-! ## Runs of backslashes -/

/-- How many backslashes a text ends with. -/
def slashesAtEnd (cs : List Char) : Nat := (cs.reverse.takeWhile (· = '\\')).length

theorem slashesAtEnd_append (cs ds : List Char) :
    slashesAtEnd (cs ++ ds) =
      if slashesAtEnd ds = ds.length then ds.length + slashesAtEnd cs else slashesAtEnd ds := by
  unfold slashesAtEnd
  rw [List.reverse_append, List.takeWhile_append, List.length_reverse]
  split
  · rw [List.length_append, List.length_reverse]
  · rfl

theorem slashesAtEnd_escaped (c : Char) : slashesAtEnd (escaped c) % 2 = 0 := by
  obtain ⟨letter, hc, hletter⟩ | ⟨hc, hplain⟩ := escaped_split c
  · rw [hc]
    by_cases hl : letter = '\\'
    · subst hl; decide
    · simp [slashesAtEnd, hl]
  · have hb : c ≠ '\\' := by
      rintro rfl
      exact absurd hplain (by decide)
    rw [hc]
    simp [slashesAtEnd, hb]

theorem slashesAtEnd_escaped_append (c : Char) (cs : List Char) :
    slashesAtEnd (escaped c ++ cs) % 2 = slashesAtEnd cs % 2 := by
  have heven := slashesAtEnd_escaped c
  rw [slashesAtEnd_append]
  split <;> omega

/-- A quote or a dollar sign in the escape of a character is behind one backslash. -/
theorem slashes_of_escaped {c d : Char} {before after : List Char}
    (h : escaped c = before ++ d :: after) (hd : d = '\x27' ∨ d = '$') :
    before = ['\\'] := by
  obtain ⟨letter, hc, -⟩ | ⟨hc, hplain⟩ := escaped_split c
  · rw [hc] at h
    cases before with
    | nil =>
        obtain ⟨rfl, -⟩ := List.cons.inj h
        exact absurd hd (by decide)
    | cons e before =>
        obtain ⟨rfl, h⟩ := List.cons.inj h
        cases before with
        | nil => rfl
        | cons f before => simp at h
  · rw [hc] at h
    cases before with
    | nil =>
        obtain ⟨rfl, -⟩ := List.cons.inj h
        rcases hd with rfl | rfl <;> exact absurd hplain (by decide)
    | cons e before => simp at h

theorem odd_slashes_of_split (cs : List Char) {before after : List Char} {d : Char}
    (h : cs.flatMap escaped = before ++ d :: after) (hd : d = '\x27' ∨ d = '$') :
    slashesAtEnd before % 2 = 1 := by
  induction cs generalizing before with
  | nil => simp at h
  | cons c cs ih =>
      rw [List.flatMap_cons] at h
      obtain ⟨rest, hbefore, hrest⟩ | ⟨rest, hc, hrest⟩ := List.append_eq_append_iff.1 h
      · -- The character is further right.
        rw [hbefore, slashesAtEnd_escaped_append]
        exact ih hrest
      · cases rest with
        | nil =>
            rw [List.append_nil] at hc
            rw [← hc]
            have hfirst : cs.flatMap escaped = [] ++ d :: after := by simpa using hrest.symm
            exact absurd (ih hfirst) (by decide)
        | cons e rest =>
            obtain ⟨rfl, -⟩ := List.cons.inj hrest
            rw [slashes_of_escaped hc hd]
            rfl

/-! ## The encoding -/

theorem no_break_mem_escaped {c d : Char} (h : d ∈ escaped c) : d ≠ '\n' ∧ d ≠ '\r' := by
  obtain ⟨letter, hc, hletter⟩ | ⟨hc, hplain⟩ := escaped_split c
  · rw [hc] at h
    simp only [List.mem_cons, List.not_mem_nil, or_false] at h
    rcases h with rfl | rfl
    · decide
    · constructor <;> rintro rfl <;> exact absurd hletter (by simp [escapeOf?])
  · rw [hc, List.mem_singleton] at h
    subst h
    constructor <;> rintro rfl <;> exact absurd hplain (by decide)

/-- A text literal is a quote, the text after all replacements, and a quote.  It stays
on its line, and every quote and every dollar sign inside is behind an odd run of
backslashes.  Decoding gives the text back, so no two texts have one literal. -/
theorem literal_encodes (s : String) :
    ∃ body : List Char,
      (literal s).toList = '\x27' :: (body ++ ['\x27']) ∧
      body = applyAll replacements s.toList ∧
      (∀ c ∈ (literal s).toList, c ≠ '\n' ∧ c ≠ '\r') ∧
      (∀ before c after, body = before ++ c :: after → c = '\x27' ∨ c = '$' →
        slashesAtEnd before % 2 = 1) ∧
      readLiteral? (literal s) = some s ∧
      ∀ t, literal t = literal s → t = s := by
  have hchars : (literal s).toList = '\x27' :: (s.toList.flatMap escaped ++ ['\x27']) := by
    rw [literal, String.toList_ofList, literalChars]
  refine ⟨s.toList.flatMap escaped, hchars, flatMap_escaped _, ?lines, ?runs,
    readLiteral?_literal s, ?inj⟩
  case lines =>
    intro c hc
    rw [hchars] at hc
    rcases List.mem_cons.1 hc with rfl | hc
    · decide
    rcases List.mem_append.1 hc with hc | hc
    · obtain ⟨d, -, hd⟩ := List.mem_flatMap.1 hc
      exact no_break_mem_escaped hd
    · rw [List.mem_singleton.1 hc]
      decide
  case runs =>
    intro before c after h hc
    exact odd_slashes_of_split s.toList h hc
  case inj =>
    intro t h
    have hread := readLiteral?_literal t
    rw [h, readLiteral?_literal] at hread
    exact (Option.some.inj hread).symm

/-- Backslash before quote, a bare dollar sign and a line break in one text. -/
example : literal "a\\'$\n" = "'a\\\\\\'\\$\\n'" := by decide

end ScreenDesign.Dart
