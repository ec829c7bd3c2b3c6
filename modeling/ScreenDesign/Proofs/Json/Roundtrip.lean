import ScreenDesign.Proofs.Json.Writable

/-!
# Reading back values

The text of a writable value is read as the value, whether it is compact (`parse_compact`) or has a
line for each item (`parse_indented`).  The number that is no number is read as such, too, but does
not equal what was written: text keeps a value whole (`isKept`) if that number is not in it.  Finite
numbers are therefore told apart by their texts (`Number.text_inj`).

Both texts are one writer's under two layouts (`laidChars`).  A `Layout` puts white space behind
brackets, commas and colons, and the reader skips all of it.  The proof follows the value.  Every
call of the reader is given at least as much fuel as there are characters to read, and each
character that it reads leaves enough for the rest.
-/

namespace ScreenDesign.Json

/-! ## Values that text keeps -/

mutual

/-- Whether the text of a value gives it back. -/
def isKept : Json → Bool
  | .number n => n.isKept
  | .list items => keepsItems items
  | .object members => decide (Entries.keys members).Nodup && keepsMembers members
  | _ => true
termination_by structural j => j

/-- Whether the texts of all items give them back. -/
def keepsItems : List Json → Bool
  | [] => true
  | j :: js => isKept j && keepsItems js
termination_by structural js => js

/-- Whether the texts of the values of all members give them back. -/
def keepsMembers : List (String × Json) → Bool
  | [] => true
  | (_, j) :: ms => isKept j && keepsMembers ms
termination_by structural ms => ms

end

@[simp] theorem isKept_text (s : String) : (Json.text s).isKept = true := rfl

theorem isKept_list_iff {js : List Json} :
    (Json.list js).isKept = true ↔ ∀ j ∈ js, j.isKept = true := by
  rw [isKept]
  induction js with
  | nil => simp [keepsItems]
  | cons j js ih => simp [keepsItems, ih]

theorem isKept_object_iff {ms : List (String × Json)} :
    (Json.object ms).isKept = true ↔ (Entries.keys ms).Nodup ∧ ∀ m ∈ ms, m.2.isKept = true := by
  have hmembers : keepsMembers ms = true ↔ ∀ m ∈ ms, m.2.isKept = true := by
    induction ms with
    | nil => simp [keepsMembers]
    | cons m ms ih => simp [keepsMembers, ih]
  rw [isKept, Bool.and_eq_true, decide_eq_true_eq, hmembers]

mutual

/-- What text keeps is writable. -/
theorem isWritable_of_isKept : {j : Json} → j.isKept = true → j.isWritable = true
  | .null, _ | .bool _, _ | .text _, _ => rfl
  | .number (.int _), h => h
  | .number (.float _), _ => rfl
  | .list _, h => itemsWritable_of_keepsItems h
  | .object _, h => by
      rw [isKept, Bool.and_eq_true] at h
      rw [isWritable, h.1, membersWritable_of_keepsMembers h.2]
      rfl

theorem itemsWritable_of_keepsItems : {js : List Json} → keepsItems js = true →
    itemsWritable js = true
  | [], _ => rfl
  | _ :: _, h => by
      rw [keepsItems, Bool.and_eq_true] at h
      rw [itemsWritable, isWritable_of_isKept h.1, itemsWritable_of_keepsItems h.2]
      rfl

theorem membersWritable_of_keepsMembers : {ms : List (String × Json)} → keepsMembers ms = true →
    membersWritable ms = true
  | [], _ => rfl
  | (_, _) :: _, h => by
      rw [keepsMembers, Bool.and_eq_true] at h
      rw [membersWritable, isWritable_of_isKept h.1, membersWritable_of_keepsMembers h.2]
      rfl

end

/-! ## Layouts -/

/-- White space between values. -/
abbrev Spaces (cs : List Char) : Prop := ∀ c ∈ cs, isSpace c = true

/-- Where a text has white space. -/
structure Layout where
  /-- Before an item, a member or a closing bracket at a depth. -/
  line : Nat → List Char
  /-- Behind a colon. -/
  gap : List Char
  line_spaces : ∀ depth, Spaces (line depth)
  gap_spaces : Spaces gap

section

variable (l : Layout)

mutual

/-- The characters of a value at a depth. -/
def laidChars (depth : Nat) : Json → List Char
  | .null => "null".toList
  | .bool b => truth b
  | .number n => numeral n
  | .text s => quoted s
  | .list [] => ['[', ']']
  | .list (j :: js) =>
      '[' :: (l.line (depth + 1) ++ (laidChars (depth + 1) j ++ laidItems depth js))
  | .object [] => ['\x7b', '\x7d']
  | .object ((k, j) :: ms) =>
      '\x7b' :: (l.line (depth + 1) ++ (quoted k ++ ':' :: (l.gap ++
        (laidChars (depth + 1) j ++ laidMembers depth ms))))
termination_by structural j => j

/-- The items of a list after its first one, and the closing bracket. -/
def laidItems (depth : Nat) : List Json → List Char
  | [] => l.line depth ++ [']']
  | j :: js =>
      ',' :: (l.line (depth + 1) ++ (laidChars (depth + 1) j ++ laidItems depth js))
termination_by structural js => js

/-- The members of an object after its first one, and the closing brace. -/
def laidMembers (depth : Nat) : List (String × Json) → List Char
  | [] => l.line depth ++ ['\x7d']
  | (k, j) :: ms =>
      ',' :: (l.line (depth + 1) ++ (quoted k ++ ':' :: (l.gap ++
        (laidChars (depth + 1) j ++ laidMembers depth ms))))
termination_by structural ms => ms

end

end

/-- The layout without any space. -/
def Layout.compact : Layout where
  line _ := []
  gap := []
  line_spaces _ := List.forall_mem_nil _
  gap_spaces := List.forall_mem_nil _

theorem spaces_newLine (depth : Nat) : Spaces (newLine depth) := by
  intro c hc
  rcases List.mem_cons.mp hc with rfl | hc
  · rfl
  · rw [List.eq_of_mem_replicate hc]
    rfl

/-- The layout with a line for each item and member. -/
def Layout.indented : Layout where
  line := newLine
  gap := [' ']
  line_spaces := spaces_newLine
  gap_spaces := List.forall_mem_singleton.mpr rfl

mutual

theorem laidChars_compact (depth : Nat) : (j : Json) → laidChars .compact depth j = compactChars j
  | .null | .bool _ | .number _ | .text _ | .list [] | .object [] => rfl
  | .list (j :: js) => by
      rw [laidChars, compactChars, laidChars_compact _ j, laidItems_compact depth js]
      rfl
  | .object ((k, j) :: ms) => by
      rw [laidChars, compactChars, laidChars_compact _ j, laidMembers_compact depth ms]
      rfl

theorem laidItems_compact (depth : Nat) :
    (js : List Json) → laidItems .compact depth js = compactItems js
  | [] => rfl
  | j :: js => by
      rw [laidItems, compactItems, laidChars_compact _ j, laidItems_compact depth js]
      rfl

theorem laidMembers_compact (depth : Nat) :
    (ms : List (String × Json)) → laidMembers .compact depth ms = compactMembers ms
  | [] => rfl
  | (k, j) :: ms => by
      rw [laidMembers, compactMembers, laidChars_compact _ j, laidMembers_compact depth ms]
      rfl

end

mutual

theorem laidChars_indented (depth : Nat) :
    (j : Json) → laidChars .indented depth j = indentedChars depth j
  | .null | .bool _ | .number _ | .text _ | .list [] | .object [] => rfl
  | .list (j :: js) => by
      rw [laidChars, indentedChars, laidChars_indented _ j, laidItems_indented depth js]
      rfl
  | .object ((k, j) :: ms) => by
      rw [laidChars, indentedChars, laidChars_indented _ j, laidMembers_indented depth ms]
      rfl

theorem laidItems_indented (depth : Nat) :
    (js : List Json) → laidItems .indented depth js = indentedItems depth js
  | [] => rfl
  | j :: js => by
      rw [laidItems, indentedItems, laidChars_indented _ j, laidItems_indented depth js]
      rfl

theorem laidMembers_indented (depth : Nat) :
    (ms : List (String × Json)) → laidMembers .indented depth ms = indentedMembers depth ms
  | [] => rfl
  | (k, j) :: ms => by
      rw [laidMembers, indentedMembers, laidChars_indented _ j, laidMembers_indented depth ms]
      rfl

end

/-! ## Numbers and words among values -/

variable {rest : List Char}

/-- No word of a value begins like a number. -/
theorem readWord?_withSign (negative : Bool) {c : Char} (hc : c.isDigit = true) (ds : List Char) :
    readWord? (Binary64.withSign negative (c :: ds)) = none := by
  have hletter (w : Char) (hw : w.isDigit = false) : w ≠ c := by
    rintro rfl
    rw [hc] at hw
    cases hw
  have hn := hletter 'n' rfl
  have ht := hletter 't' rfl
  have hf := hletter 'f' rfl
  have hN := hletter 'N' rfl
  have hI := hletter 'I' rfl
  have hminus := hletter '-' rfl
  cases negative with
  | false => simp [Binary64.withSign, readWord?, valueWords, afterWord?, hn, ht, hf, hN, hI, hminus]
  | true => simp [Binary64.withSign, readWord?, valueWords, afterWord?, hI]

/-- Where a number stands, a number is read. -/
theorem readValue_of_readNumber {cs : List Char} {n : Number} {rest : List Char}
    (h : readNumber cs = .ok (n, rest)) (fuel : Nat) :
    readValue (fuel + 1) cs = .ok (.number n, rest) := by
  obtain ⟨negative, c, ds, hcs, hc⟩ := exists_digit_of_readNumber h
  have hword := readWord?_withSign negative hc ds
  rw [← hcs] at hword
  have hother (w : Char) (hw : w.isDigit = false) (hminus : w ≠ '-') (ws : List Char) :
      cs ≠ w :: ws := by
    rintro rfl
    cases negative with
    | false =>
        rw [(List.cons.inj hcs).1, hc] at hw
        cases hw
    | true => exact hminus (List.cons.inj hcs).1
  unfold readValue
  split
  case h_1 => exact absurd rfl (hother '\x22' rfl (by decide) _)
  case h_2 => exact absurd rfl (hother '\x7b' rfl (by decide) _)
  case h_3 => exact absurd rfl (hother '[' rfl (by decide) _)
  case h_4 => rw [hword, h]; rfl

/-- A word of a value is read as the value. -/
theorem readValue_word (fuel : Nat) (rest : List Char) {word : String} {j : Json}
    (h : (word, j) ∈ valueWords) : readValue (fuel + 1) (word.toList ++ rest) = .ok (j, rest) := by
  simp only [valueWords, List.mem_cons, List.not_mem_nil, or_false, Prod.mk.injEq] at h
  rcases h with ⟨rfl, rfl⟩ | ⟨rfl, rfl⟩ | ⟨rfl, rfl⟩ | ⟨rfl, rfl⟩ | ⟨rfl, rfl⟩ | ⟨rfl, rfl⟩
  · rfl
  · rfl
  · rfl
  · rfl
  · rfl
  · rfl

/-- A number is read back. -/
theorem readValue_numeral (fuel : Nat) {n : Number} (h : n.isBrief = true) (hrest : Ends rest) :
    readValue (fuel + 1) (numeral n ++ rest) = .ok (.number n, rest) := by
  cases n with
  | int n => exact readValue_of_readNumber (readNumber_int h hrest) fuel
  | float x =>
      cases x with
      | finite negative rank =>
          exact readValue_of_readNumber (readNumber_finite negative rank hrest) fuel
      | infinite negative =>
          cases negative with
          | false => exact readValue_word fuel rest (by decide : ("Infinity", _) ∈ valueWords)
          | true => exact readValue_word fuel rest (by decide : ("-Infinity", _) ∈ valueWords)
      | nan => exact readValue_word fuel rest (by decide : ("NaN", _) ∈ valueWords)

/-! ## How values begin -/

/-- A character that a value can begin with. -/
def opens (c : Char) : Bool :=
  c.isDigit || ['\x22', '[', '\x7b', '-', 'I', 'N', 'f', 'n', 't'].contains c

/-- Space, the closing brackets and the byte order mark. -/
def strays : List Char := [' ', '\t', '\n', '\r', ']', '\x7d', '\ufeff']

/-- No value begins with any of these. -/
theorem opens_of_mem_strays : ∀ c ∈ strays, opens c = false := by
  simp [strays, opens]

/-- A text begins like a value. -/
def Opened (cs : List Char) : Prop := ∃ c ds, cs = c :: ds ∧ opens c = true

theorem opened_withSign {negative : Bool} {cs : List Char} (h : Opened cs) :
    Opened (Binary64.withSign negative cs) := by
  cases negative with
  | false => exact h
  | true => exact ⟨'-', cs, rfl, rfl⟩

theorem opened_numeral {n : Number} (h : n.isBrief = true) : Opened (numeral n) := by
  have hread {n m : Number} {rest : List Char}
      (h : readNumber (numeral n ++ []) = .ok (m, rest)) : Opened (numeral n) := by
    obtain ⟨negative, c, ds, hcs, hc⟩ := exists_digit_of_readNumber h
    rw [List.append_nil] at hcs
    rw [hcs]
    exact opened_withSign ⟨c, ds, rfl, by rw [opens, hc, Bool.true_or]⟩
  cases n with
  | int n => exact hread (readNumber_int h ends_nil)
  | float x =>
      cases x with
      | finite negative rank => exact hread (readNumber_finite negative rank ends_nil)
      | infinite negative =>
          rw [numeral, Binary64.text, String.toList_ofList]
          exact opened_withSign ⟨'I', _, rfl, rfl⟩
      | nan => exact ⟨'N', _, rfl, rfl⟩

theorem opened_laidChars (l : Layout) (depth : Nat) {j : Json} (h : j.isWritable = true) :
    Opened (laidChars l depth j) := by
  cases j with
  | null => exact ⟨'n', _, rfl, rfl⟩
  | bool b =>
      cases b with
      | true => exact ⟨'t', _, rfl, rfl⟩
      | false => exact ⟨'f', _, rfl, rfl⟩
  | number n => exact opened_numeral h
  | text s => exact ⟨'\x22', _, rfl, rfl⟩
  | list items =>
      cases items with
      | nil => exact ⟨'[', _, rfl, rfl⟩
      | cons j js => exact ⟨'[', _, rfl, rfl⟩
  | object members =>
      cases members with
      | nil => exact ⟨'\x7b', _, rfl, rfl⟩
      | cons m ms => exact ⟨'\x7b', _, rfl, rfl⟩

/-! ## Lists and objects -/

namespace Opened

variable {cs : List Char}

theorem append (h : Opened cs) (rest : List Char) : Opened (cs ++ rest) := by
  obtain ⟨c, ds, rfl, hc⟩ := h
  exact ⟨c, ds ++ rest, rfl, hc⟩

theorem ne_cons (h : Opened cs) {c : Char} (hc : c ∈ strays) (ds : List Char) : cs ≠ c :: ds := by
  obtain ⟨x, xs, rfl, hx⟩ := h
  intro heq
  rw [(List.cons.inj heq).1, opens_of_mem_strays c hc] at hx
  cases hx

theorem ne_nil (h : Opened cs) : cs ≠ [] := by
  obtain ⟨c, ds, rfl, -⟩ := h
  exact List.cons_ne_nil c ds

/-- As much fuel as there are characters is some fuel. -/
theorem exists_fuel (h : Opened cs) {fuel : Nat} (hfuel : cs.length ≤ fuel) :
    ∃ n, fuel = n + 1 := by
  obtain ⟨c, ds, rfl, -⟩ := h
  exact Nat.exists_eq_add_one_of_ne_zero (Nat.ne_of_gt (Nat.zero_lt_of_lt hfuel))

/-- No space is skipped where a value begins. -/
theorem skipSpace_eq (h : Opened cs) : skipSpace cs = cs := by
  obtain ⟨c, ds, rfl, hc⟩ := h
  have hspace : ¬isSpace c = true := by
    intro hs
    have hmem : c ∈ strays := by
      simp only [isSpace, Bool.or_eq_true, decide_eq_true_eq] at hs
      rcases hs with ((rfl | rfl) | rfl) | rfl
      all_goals decide
    rw [opens_of_mem_strays c hmem] at hc
    cases hc
  exact List.dropWhile_cons_of_neg hspace

end Opened

/-- All space before a character that is none is skipped. -/
theorem skipSpace_spaces {sp : List Char} (hsp : Spaces sp) {c : Char} (hc : isSpace c = false)
    (rest : List Char) : skipSpace (sp ++ c :: rest) = c :: rest := by
  rw [skipSpace, List.dropWhile_append_of_pos hsp]
  exact List.dropWhile_cons_of_neg (by simp [hc])

theorem Opened.skipSpace_append {cs sp : List Char} (h : Opened cs) (hsp : Spaces sp) :
    skipSpace (sp ++ cs) = cs := by
  have hskip := h.skipSpace_eq
  rw [skipSpace] at hskip
  rw [skipSpace, List.dropWhile_append_of_pos hsp, hskip]

/-- A text in quotes, taken apart. -/
theorem quoted_append (s : String) (rest : List Char) :
    quoted s ++ rest = '\x22' :: (s.toList.flatMap escaped ++ '\x22' :: rest) := by
  simp [quoted]

section

variable {fuel : Nat} {cs more sp gap : List Char} {j : Json} {js : List Json} {k : String}
  {ms : List (String × Json)}

/-- A list that is not empty is read item by item. -/
theorem readValue_list (hsp : Spaces sp) (h : Opened cs)
    (hitems : readItems fuel cs = .ok (js, rest)) :
    readValue (fuel + 1) ('[' :: (sp ++ cs)) = .ok (.list js, rest) := by
  simp only [readValue, h.skipSpace_append hsp]
  split
  case h_1 after => exact absurd rfl (h.ne_cons (by decide) after)
  case h_2 => rw [hitems]; rfl

/-- An object that is not empty is read member by member. -/
theorem readValue_object (hsp : Spaces sp) (h : Opened cs) (hkeys : (Entries.keys ms).Nodup)
    (hmembers : readMembers fuel cs = .ok (ms, rest)) :
    readValue (fuel + 1) ('\x7b' :: (sp ++ cs)) = .ok (.object ms, rest) := by
  have hpairs : Entries.ofPairs ms = ms := Entries.insertAll_of_new ms [] hkeys
  simp only [readValue, h.skipSpace_append hsp]
  split
  case h_1 after => exact absurd rfl (h.ne_cons (by decide) after)
  case h_2 => rw [hmembers, Except.map, hpairs]

theorem readItems_last (hsp : Spaces sp)
    (h : readValue fuel cs = .ok (j, sp ++ ']' :: rest)) :
    readItems (fuel + 1) cs = .ok ([j], rest) := by
  simp only [readItems, h, skipSpace_spaces hsp (by decide : isSpace ']' = false)]

theorem readItems_more (hsp : Spaces sp) (h : readValue fuel cs = .ok (j, ',' :: (sp ++ more)))
    (hmore : Opened more) (hitems : readItems fuel more = .ok (js, rest)) :
    readItems (fuel + 1) cs = .ok (j :: js, rest) := by
  have hcomma (ds : List Char) : skipSpace (',' :: ds) = ',' :: ds := rfl
  simp only [readItems, h, hcomma, hmore.skipSpace_append hsp, hitems]
  rfl

theorem readMembers_last (k : String) (hgap : Spaces gap) (hsp : Spaces sp) (hcs : Opened cs)
    (h : readValue fuel cs = .ok (j, sp ++ '\x7d' :: rest)) :
    readMembers (fuel + 1) (quoted k ++ ':' :: (gap ++ cs)) = .ok ([(k, j)], rest) := by
  have hcolon (ds : List Char) : skipSpace (':' :: ds) = ':' :: ds := rfl
  have hbrace := skipSpace_spaces hsp (by decide : isSpace '\x7d' = false) rest
  rw [quoted_append]
  simp only [readMembers, readText_escaped, hcolon, hcs.skipSpace_append hgap, h, hbrace]

theorem readMembers_more (k : String) (hgap : Spaces gap) (hsp : Spaces sp) (hcs : Opened cs)
    (h : readValue fuel cs = .ok (j, ',' :: (sp ++ more))) (hmore : Opened more)
    (hmembers : readMembers fuel more = .ok (ms, rest)) :
    readMembers (fuel + 1) (quoted k ++ ':' :: (gap ++ cs)) = .ok ((k, j) :: ms, rest) := by
  have hcolon (ds : List Char) : skipSpace (':' :: ds) = ':' :: ds := rfl
  have hcomma (ds : List Char) : skipSpace (',' :: ds) = ',' :: ds := rfl
  rw [quoted_append]
  simp only [readMembers, readText_escaped, hcolon, hcs.skipSpace_append hgap, h, hcomma,
    hmore.skipSpace_append hsp, hmembers]
  rfl

end

/-! ## Values -/

theorem mem_enders_of_isSpace {c : Char} (h : isSpace c = true) : c ∈ enders := by
  simp only [isSpace, Bool.or_eq_true, decide_eq_true_eq] at h
  rcases h with ((rfl | rfl) | rfl) | rfl
  all_goals decide

/-- White space can stand behind a value, and so can what ends one behind white space. -/
theorem ends_spaces {sp rest : List Char} (hsp : Spaces sp) (hrest : Ends rest) :
    Ends (sp ++ rest) := by
  cases sp with
  | nil => exact hrest
  | cons c sp => exact ends_cons (mem_enders_of_isSpace (hsp c List.mem_cons_self))

section

variable (l : Layout) (depth : Nat)

theorem ends_laidItems (js : List Json) (rest : List Char) : Ends (laidItems l depth js ++ rest) := by
  cases js with
  | nil =>
      rw [laidItems, List.append_assoc]
      exact ends_spaces (l.line_spaces depth) (ends_cons (by decide))
  | cons j js => exact ends_cons (by decide)

theorem ends_laidMembers (ms : List (String × Json)) (rest : List Char) :
    Ends (laidMembers l depth ms ++ rest) := by
  cases ms with
  | nil =>
      rw [laidMembers, List.append_assoc]
      exact ends_spaces (l.line_spaces depth) (ends_cons (by decide))
  | cons m ms => exact ends_cons (by decide)

theorem laidItems_ne_nil (js : List Json) : laidItems l depth js ≠ [] := by
  cases js with
  | nil => simp [laidItems]
  | cons j js => exact List.cons_ne_nil _ _

theorem laidMembers_ne_nil (ms : List (String × Json)) : laidMembers l depth ms ≠ [] := by
  cases ms with
  | nil => simp [laidMembers]
  | cons m ms => exact List.cons_ne_nil _ _

end

theorem opened_quoted (s : String) (rest : List Char) : Opened (quoted s ++ rest) :=
  ⟨'\x22', _, rfl, rfl⟩

/-- Fuel for two texts is fuel for each of them after one more call. -/
theorem exists_fuel_append {as bs : List Char} {fuel : Nat} (h : (as ++ bs).length ≤ fuel)
    (has : as ≠ []) (hbs : bs ≠ []) : ∃ n, fuel = n + 1 ∧ as.length ≤ n ∧ bs.length ≤ n := by
  have ha := List.length_pos_of_ne_nil has
  have hb := List.length_pos_of_ne_nil hbs
  rw [List.length_append] at h
  exact ⟨fuel - 1, by omega, by omega, by omega⟩

mutual

/-- A value is read back from its text in any layout. -/
theorem readValue_laid (l : Layout) (depth : Nat) : (j : Json) → j.isWritable = true →
    ∀ {fuel : Nat} {rest : List Char}, (laidChars l depth j).length ≤ fuel → Ends rest →
      readValue fuel (laidChars l depth j ++ rest) = .ok (j, rest)
  | j, h, 0, rest, hfuel, _ => by
      obtain ⟨n, hn⟩ := (opened_laidChars l depth h).exists_fuel hfuel
      cases hn
  | .null, _, fuel + 1, rest, _, _ => readValue_word fuel rest (by simp [valueWords])
  | .bool true, _, fuel + 1, rest, _, _ => readValue_word fuel rest (by simp [valueWords])
  | .bool false, _, fuel + 1, rest, _, _ => readValue_word fuel rest (by simp [valueWords])
  | .number n, h, fuel + 1, rest, _, hrest => readValue_numeral fuel h hrest
  | .text s, _, fuel + 1, rest, _, _ => by
      rw [laidChars, quoted_append, readValue, readText_escaped]
      rfl
  | .list [], _, fuel + 1, rest, _, _ => rfl
  | .list (j :: js), h, fuel + 1, rest, hfuel, _ => by
      rw [isWritable, itemsWritable, Bool.and_eq_true] at h
      have hopened := opened_laidChars l (depth + 1) h.1
      rw [laidChars, List.length_cons, List.length_append] at hfuel
      have hboth : (laidChars l (depth + 1) j ++ laidItems l depth js).length ≤ fuel := by omega
      obtain ⟨fuel, rfl, hfirst, hothers⟩ := exists_fuel_append hboth hopened.ne_nil
        (laidItems_ne_nil l depth js)
      have hvalue := readValue_laid l (depth + 1) j h.1 hfirst (ends_laidItems l depth js rest)
      have hitems := readItems_laid l depth js h.2 hvalue hothers
      rw [laidChars, List.cons_append, List.append_assoc, List.append_assoc]
      exact readValue_list (l.line_spaces _) (hopened.append _) hitems
  | .object [], _, fuel + 1, rest, _, _ => rfl
  | .object ((k, j) :: ms), h, fuel + 1, rest, hfuel, _ => by
      rw [isWritable, membersWritable, Bool.and_eq_true, Bool.and_eq_true, decide_eq_true_eq] at h
      obtain ⟨hkeys, hj, hms⟩ := h
      have hopened := opened_laidChars l (depth + 1) hj
      rw [laidChars, List.length_cons, List.length_append, List.length_append, List.length_cons,
        List.length_append] at hfuel
      have hboth : (laidChars l (depth + 1) j ++ laidMembers l depth ms).length ≤ fuel := by omega
      obtain ⟨fuel, rfl, hfirst, hothers⟩ := exists_fuel_append hboth hopened.ne_nil
        (laidMembers_ne_nil l depth ms)
      have hvalue := readValue_laid l (depth + 1) j hj hfirst (ends_laidMembers l depth ms rest)
      have hmembers := readMembers_laid l depth ms hms k (hopened.append _) hvalue hothers
      rw [laidChars, List.cons_append, List.append_assoc, List.append_assoc, List.cons_append,
        List.append_assoc, List.append_assoc]
      exact readValue_object (l.line_spaces _) (opened_quoted k _) hkeys hmembers

/-- What stands behind an item is read as the rest of its list. -/
theorem readItems_laid (l : Layout) (depth : Nat) : (js : List Json) → itemsWritable js = true →
    ∀ {j : Json} {fuel : Nat} {cs rest : List Char},
      readValue fuel cs = .ok (j, laidItems l depth js ++ rest) →
      (laidItems l depth js).length ≤ fuel → readItems (fuel + 1) cs = .ok (j :: js, rest)
  | [], _, j, fuel, cs, rest, hvalue, _ => by
      rw [laidItems, List.append_assoc] at hvalue
      exact readItems_last (l.line_spaces depth) hvalue
  | k :: ks, h, j, fuel, cs, rest, hvalue, hfuel => by
      rw [itemsWritable, Bool.and_eq_true] at h
      have hopened := opened_laidChars l (depth + 1) h.1
      rw [laidItems, List.length_cons, List.length_append] at hfuel
      have hboth : (laidChars l (depth + 1) k ++ laidItems l depth ks).length ≤ fuel := by omega
      obtain ⟨fuel, rfl, hfirst, hothers⟩ := exists_fuel_append hboth hopened.ne_nil
        (laidItems_ne_nil l depth ks)
      have hnext := readValue_laid l (depth + 1) k h.1 hfirst (ends_laidItems l depth ks rest)
      have hitems := readItems_laid l depth ks h.2 hnext hothers
      rw [laidItems, List.cons_append, List.append_assoc, List.append_assoc] at hvalue
      exact readItems_more (l.line_spaces _) hvalue (hopened.append _) hitems

/-- What stands behind a member is read as the rest of its object. -/
theorem readMembers_laid (l : Layout) (depth : Nat) :
    (ms : List (String × Json)) → membersWritable ms = true →
    ∀ (k : String) {j : Json} {fuel : Nat} {cs rest : List Char}, Opened cs →
      readValue fuel cs = .ok (j, laidMembers l depth ms ++ rest) →
      (laidMembers l depth ms).length ≤ fuel →
      readMembers (fuel + 1) (quoted k ++ ':' :: (l.gap ++ cs)) = .ok ((k, j) :: ms, rest)
  | [], _, k, j, fuel, cs, rest, hcs, hvalue, _ => by
      rw [laidMembers, List.append_assoc] at hvalue
      exact readMembers_last k l.gap_spaces (l.line_spaces depth) hcs hvalue
  | (i, v) :: ms, h, k, j, fuel, cs, rest, hcs, hvalue, hfuel => by
      rw [membersWritable, Bool.and_eq_true] at h
      have hopened := opened_laidChars l (depth + 1) h.1
      rw [laidMembers, List.length_cons, List.length_append, List.length_append, List.length_cons,
        List.length_append] at hfuel
      have hboth : (laidChars l (depth + 1) v ++ laidMembers l depth ms).length ≤ fuel := by omega
      obtain ⟨fuel, rfl, hfirst, hothers⟩ := exists_fuel_append hboth hopened.ne_nil
        (laidMembers_ne_nil l depth ms)
      have hnext := readValue_laid l (depth + 1) v h.1 hfirst (ends_laidMembers l depth ms rest)
      have hmembers := readMembers_laid l depth ms h.2 i (hopened.append _) hnext hothers
      rw [laidMembers, List.cons_append, List.append_assoc, List.append_assoc, List.cons_append,
        List.append_assoc, List.append_assoc] at hvalue
      exact readMembers_more k l.gap_spaces (l.line_spaces _) hcs hvalue (opened_quoted i _) hmembers

end

/-! ## The whole text -/

/-- A value with space behind it is read from its text in any layout. -/
theorem readAll_laid (l : Layout) {j : Json} (h : j.isWritable = true) (sp : List Char)
    (hsp : Spaces sp) : readAll (laidChars l 0 j ++ sp) = .ok j := by
  have hopened := (opened_laidChars l 0 h).append sp
  have hends : Ends (sp ++ []) := ends_spaces hsp ends_nil
  have hlength : (laidChars l 0 j).length ≤ 2 * ((laidChars l 0 j ++ sp).length + 1) := by
    rw [List.length_append]
    omega
  have hvalue := readValue_laid l 0 j h hlength hends
  have hrest : skipSpace sp = [] := List.dropWhile_eq_nil_iff.mpr hsp
  rw [List.append_nil] at hvalue
  unfold readAll
  split
  case h_1 ds heq => exact absurd heq (hopened.ne_cons (by decide) ds)
  case h_2 => simp only [hopened.skipSpace_eq, hvalue, hrest]

/-- A writable value is what its compact text writes. -/
theorem parse_compact {j : Json} (h : j.isWritable = true) : parse j.compact = .ok j := by
  have hread := readAll_laid .compact h [] (List.forall_mem_nil _)
  rw [List.append_nil, laidChars_compact] at hread
  rw [parse, compact, String.toList_ofList, hread]

/-- A writable value is what its indented text writes, with the end of its line. -/
theorem parse_indented {j : Json} (h : j.isWritable = true) :
    parse (j.indented ++ "\n") = .ok j := by
  have hread := readAll_laid .indented h ['\n'] (List.forall_mem_singleton.mpr rfl)
  rw [laidChars_indented] at hread
  have hchars : (j.indented ++ "\n").toList = indentedChars 0 j ++ ['\n'] := by
    rw [String.toList_append, indented, String.toList_ofList]
    rfl
  rw [parse, hchars, hread]

end ScreenDesign.Json

namespace ScreenDesign.Number

/-! ## Texts of numbers -/

/-- A finite number is written in JSON as it is written anywhere. -/
theorem compact_of_isFinite {n : Number} (h : n.isFinite = true) :
    (Json.number n).compact = n.text := by
  have hchars : Json.numeral n = n.text.toList := by
    cases n with
    | int _ => rfl
    | float x =>
        cases x with
        | finite _ _ => rfl
        | infinite _ => cases h
        | nan => cases h
  rw [Json.compact, Json.compactChars, hchars, String.ofList_toList]

/-- So it is read back from its text. -/
theorem parse_text {n : Number} (h : n.isFinite = true) (hbrief : n.isBrief = true) :
    Json.parse n.text = .ok (.number n) := by
  rw [← compact_of_isFinite h]
  exact Json.parse_compact (j := .number n) hbrief

/-- Finite numbers with few enough digits are told apart by their texts. -/
theorem text_inj {n m : Number} (hn : n.isFinite = true) (hm : m.isFinite = true)
    (hbriefn : n.isBrief = true) (hbriefm : m.isBrief = true) (h : n.text = m.text) : n = m := by
  have hread := parse_text hn hbriefn
  rw [h, parse_text hm hbriefm] at hread
  exact (Json.number.inj (Except.ok.inj hread)).symm

end ScreenDesign.Number
