import ScreenDesign.Content.Reading
import ScreenDesign.Proofs.Dart.Rows
import ScreenDesign.Proofs.Results

/-!
# Names in a program

Some texts enter a program without quotes: the names of screens as class names, the
names of icons, and the ids of elements in remarks.  None of them can do harm there.

* A class name is made of letters and digits (`wordName_of_mem_assign`).
* The icons of a content are the names that were checked when it was read, or a
  fixed one (`plainName_of_mem_iconNames`).
* A remark keeps the words of an id and no line break (`oneLine_elementRemark`).
-/

namespace ScreenDesign.Dart

/-! ## Plain names -/

/-- A name that is code without quotes, slashes and brackets. -/
def PlainName (s : String) : Prop := s.toList.all isPlain = true

theorem plainName_ofList {cs : List Char} (h : cs.all isPlain = true) :
    PlainName (String.ofList cs) := by
  rwa [PlainName, String.toList_ofList]

theorem PlainName.append {s t : String} (hs : PlainName s) (ht : PlainName t) :
    PlainName (s ++ t) := by
  rw [PlainName, String.toList_append, List.all_append, hs, ht]
  rfl

theorem plainName_repr (n : Nat) : PlainName n.repr := by
  rw [PlainName, Nat.toList_repr]
  exact all_isPlain_toDigits n

theorem plainName_decimalText (n : Int) : PlainName (decimalText n) := by
  rw [decimalText]
  split
  · exact .append (plainName_ofList rfl) (plainName_repr _)
  · exact plainName_repr _

/-! ## Class names -/

theorem lt_of_isAlphanumeric {c : Char} (h : Text.isAlphanumeric c = true) : c.toNat < 128 := by
  have hranges : (decide ('A'.val ≤ c.val ∧ c.val ≤ 'Z'.val) ||
      ('a'.val ≤ c.val && c.val ≤ 'z'.val) || ('0'.val ≤ c.val && c.val ≤ '9'.val)) = true := h
  simp only [Bool.or_eq_true, Bool.and_eq_true, decide_eq_true_eq,
    UInt32.le_iff_toNat_le] at hranges
  rw [← Char.toNat_val]
  have : 'Z'.val.toNat = 90 := rfl
  have : 'z'.val.toNat = 122 := rfl
  have : '9'.val.toNat = 57 := rfl
  omega

theorem isAlphanumeric_toUpper {c : Char} (h : Text.isAlphanumeric c = true) :
    Text.isAlphanumeric c.toUpper = true := by
  have hascii : ∀ n < 128, Text.isAlphanumeric (Char.ofNat n) = true →
      Text.isAlphanumeric (Char.ofNat n).toUpper = true := by decide
  have hlt := lt_of_isAlphanumeric h
  rw [← Char.ofNat_toNat c] at h ⊢
  exact hascii _ hlt h

/-- An open run and the closed runs have only characters of their class. -/
theorem mem_openRuns {p : Char → Bool} {cs : List Char} :
    (∀ c ∈ (Text.openRuns p cs).1, p c = true) ∧
      ∀ run ∈ (Text.openRuns p cs).2, ∀ c ∈ run, p c = true := by
  induction cs with
  | nil => exact ⟨nofun, nofun⟩
  | cons c cs ih =>
      obtain ⟨hrun, hclosed⟩ := ih
      simp only [Text.openRuns]
      split
      · rename_i hc
        exact ⟨List.forall_mem_cons.mpr ⟨hc, hrun⟩, hclosed⟩
      · refine ⟨nofun, ?_⟩
        split
        · exact hclosed
        · exact List.forall_mem_cons.mpr ⟨hrun, hclosed⟩

theorem mem_runs {p : Char → Bool} {cs run : List Char} (h : run ∈ Text.runs p cs) :
    ∀ c ∈ run, p c = true := by
  obtain ⟨hrun, hclosed⟩ := @mem_openRuns p cs
  simp only [Text.runs] at h
  split at h
  · exact hclosed run h
  · obtain rfl | h := List.mem_cons.mp h
    · exact hrun
    · exact hclosed run h

theorem alphanumeric_capitalized {cs : List Char} (h : ∀ c ∈ cs, Text.isAlphanumeric c = true) :
    ∀ c ∈ capitalized cs, Text.isAlphanumeric c = true := by
  cases cs with
  | nil => exact nofun
  | cons c cs =>
      obtain ⟨hc, hcs⟩ := List.forall_mem_cons.mp h
      exact List.forall_mem_cons.mpr ⟨isAlphanumeric_toUpper hc, hcs⟩

/-- A name of letters and digits. -/
def WordName (s : String) : Prop := ∀ c ∈ s.toList, Text.isAlphanumeric c = true

theorem WordName.plain {s : String} (h : WordName s) : PlainName s :=
  List.all_eq_true.mpr fun c hc => isPlain_of_isAlphanumeric (h c hc)

theorem alphanumeric_joinedWords (name : String) :
    ∀ c ∈ joinedWords name, Text.isAlphanumeric c = true := by
  simp only [joinedWords]
  split
  · exact List.all_eq_true.mp rfl
  · intro c hc
    obtain ⟨run, hrun, hc⟩ := List.mem_flatMap.mp hc
    exact alphanumeric_capitalized (mem_runs hrun) c hc

theorem wordName_className (name : String) : WordName (className name) := by
  have hscreen : ∀ c ∈ "Screen".toList, Text.isAlphanumeric c = true := List.all_eq_true.mp rfl
  rw [WordName, className, String.toList_ofList, List.forall_mem_append, List.forall_mem_append]
  refine ⟨⟨?_, alphanumeric_joinedWords name⟩, hscreen⟩
  split
  · exact hscreen
  · exact nofun

theorem wordName_numbered {base : String} (h : WordName base) (position : Nat) :
    WordName (numbered base position) := by
  rw [numbered]
  split
  · exact h
  · rw [WordName, String.toList_append, Nat.toList_repr, List.forall_mem_append]
    refine ⟨h, fun c hc => ?_⟩
    have hdigit := Nat.isDigit_of_mem_toDigits (by decide) (by decide) hc
    rw [Text.isAlphanumeric, hdigit, Bool.or_true]

theorem wordName_freshName {used : List String} {base : String} (h : WordName base) :
    WordName (freshName used base) := by
  rw [freshName]
  cases hfound : ((List.range (used.length + 1)).map (numbered base)).find? fun n => n ∉ used with
  | none => exact h
  | some n =>
      obtain ⟨position, -, rfl⟩ := List.mem_map.mp (List.mem_of_find?_eq_some hfound)
      exact wordName_numbered h position

theorem length_assignAfter (used names : List String) :
    (assignAfter used names).length = names.length := by
  induction names generalizing used with
  | nil => rfl
  | cons name names ih => exact congrArg Nat.succ (ih _)

/-- There is a class name for each name. -/
theorem length_assign (names : List String) : (assign names).length = names.length :=
  length_assignAfter [] names

theorem wordName_of_mem_assignAfter {used names : List String} {n : String}
    (h : n ∈ assignAfter used names) : WordName n := by
  induction names generalizing used with
  | nil => cases h
  | cons name names ih =>
      obtain rfl | h := List.mem_cons.mp h
      · exact wordName_freshName (wordName_className name)
      · exact ih h

/-- The names of classes have only letters and digits, whatever the names of the screens are. -/
theorem wordName_of_mem_assign {names : List String} {n : String} (h : n ∈ assign names) :
    WordName n := wordName_of_mem_assignAfter h

/-! ## Icons -/

theorem isPlain_of_isPart {c : Char} (h : Icon.isPart c = true) : isPlain c = true := by
  simp only [Icon.isPart, Icon.isStart, Bool.or_eq_true, decide_eq_true_eq] at h
  obtain (h | rfl) | h := h
  · have hletter : (c.isUpper || c.isLower || c.isDigit) = true := by simp [h]
    exact isPlain_of_isAlphanumeric hletter
  · rfl
  · exact isPlain_of_isDigit h

theorem all_isPlain_of_isName {cs : List Char} (h : Icon.isName cs = true) :
    cs.all isPlain = true := by
  cases cs with
  | nil => rfl
  | cons c cs =>
      simp only [Icon.isName, Bool.and_eq_true] at h
      have hc : Icon.isPart c = true := by rw [Icon.isPart, h.1, Bool.true_or]
      rw [List.all_cons, isPlain_of_isPart hc, Bool.true_and]
      exact List.all_eq_true.mpr fun d hd => isPlain_of_isPart (List.all_eq_true.mp h.2 d hd)

/-- A checked name of an icon is plain, and so is the line break that may follow it. -/
theorem plainName_resolve {fallback : String} (h : PlainName fallback) (j : Json) :
    PlainName (Icon.resolve fallback j) := by
  cases j with
  | text s =>
      simp only [Icon.resolve]
      split
      · rename_i hname
        have hall := all_isPlain_of_isName hname
        rw [Icon.dropBreak] at hall
        split at hall
        · rename_i hlast
          obtain ⟨cs, hcs⟩ := List.getLast?_eq_some_iff.mp hlast
          rw [hcs, List.dropLast_concat] at hall
          rw [PlainName, hcs, List.all_append, hall]
          rfl
        · exact hall
      · exact h
  | null => exact h
  | bool => exact h
  | number => exact h
  | list => exact h
  | object => exact h

/-- The names of the icons that a content holds. -/
def iconNames : Content → List String
  | .textField f => f.icon.toList
  | .list l => l.tiles.map Tile.icon
  | .icon g => [g.icon]
  | _ => []

/-- The icons in a content that was read are names that were checked, or a name that
stands in for one. -/
theorem exists_resolve_of_mem_iconNames {e : Element} {c : Content}
    (h : e.content.result = .ok c) : ∀ name ∈ iconNames c, ∃ fallback j,
      (fallback = Icon.standard ∨ fallback = Icon.listItem) ∧ name = Icon.resolve fallback j := by
  rw [Element.content, Logged.result_bind, bind_eq_ok] at h
  obtain ⟨r, -, h⟩ := h
  revert h
  cases e.type with
  | textField =>
      rintro ⟨⟩ name hname
      simp only [iconNames, Content.textFieldOf] at hname
      split at hname
      · rw [Option.toList_some, List.mem_singleton] at hname
        exact ⟨Icon.standard, .text (r.text "icon"), .inl rfl, hname⟩
      · cases hname
  | list =>
      intro h
      rw [Content.ofRecord, Logged.result_bind, bind_eq_ok] at h
      obtain ⟨items, -, h⟩ := h
      cases h
      intro name hname
      obtain ⟨tile, htile, rfl⟩ := List.mem_map.mp hname
      obtain ⟨i, hi, rfl⟩ := List.mem_mapIdx.mp htile
      exact ⟨Icon.listItem, .text items[i].icon, .inr rfl, rfl⟩
  | icon =>
      rintro ⟨⟩ name hname
      rw [iconNames, List.mem_singleton] at hname
      exact ⟨Icon.standard, .text (r.text "name"), .inl rfl, hname⟩
  | dropdown =>
      intro h
      rw [Content.ofRecord, Logged.result_bind, bind_eq_ok] at h
      obtain ⟨choices, -, h⟩ := h
      cases h
      exact nofun
  | dynamicTable =>
      intro h
      rw [Content.ofRecord, Logged.result_bind, bind_eq_ok] at h
      obtain ⟨table, -, h⟩ := h
      cases h
      exact nofun
  | _ => rintro ⟨⟩; exact nofun

/-- The names of icons in a content that was read are plain. -/
theorem plainName_of_mem_iconNames {e : Element} {c : Content}
    (h : e.content.result = .ok c) : ∀ name ∈ iconNames c, PlainName name := by
  intro name hname
  obtain ⟨fallback, j, hfallback, rfl⟩ := exists_resolve_of_mem_iconNames h name hname
  rcases hfallback with rfl | rfl
  · exact plainName_resolve (plainName_ofList rfl) j
  · exact plainName_resolve (plainName_ofList rfl) j

/-! ## Remarks -/

theorem oneLine_ofList {cs : List Char} (h : cs.all (fun c => c != '\n' && c != '\r') = true) :
    OneLine (String.ofList cs) := by
  rw [OneLine, String.toList_ofList]
  intro c hc
  have hchar := List.all_eq_true.mp h c hc
  rwa [Bool.and_eq_true, bne_iff_ne, bne_iff_ne] at hchar

theorem OneLine.append {s t : String} (hs : OneLine s) (ht : OneLine t) : OneLine (s ++ t) := by
  rw [OneLine, String.toList_append]
  exact List.forall_mem_append.mpr ⟨hs, ht⟩

theorem oneLine_of_mem_words {s word : String} (h : word ∈ Text.words s) : OneLine word := by
  obtain ⟨run, hrun, rfl⟩ := List.mem_map.mp h
  rw [OneLine, String.toList_ofList]
  intro c hc
  have hblank := mem_runs hrun c hc
  refine ⟨?_, ?_⟩ <;> rintro rfl
  all_goals revert hblank; decide

theorem oneLine_intercalate {words : List String} (h : ∀ word ∈ words, OneLine word) :
    OneLine (" ".intercalate words) := by
  have hblank : OneLine " " := oneLine_ofList rfl
  induction words with
  | nil => exact nofun
  | cons word words ih =>
      obtain ⟨hword, hwords⟩ := List.forall_mem_cons.mp h
      cases words with
      | nil => rwa [String.intercalate_singleton]
      | cons next words =>
          rw [String.intercalate_cons_cons]
          exact (hword.append hblank).append (ih hwords)

theorem oneLine_typeName (t : ComponentType) : OneLine t.name := by
  cases t <;> exact oneLine_ofList rfl

/-- The remark above a widget has one line, whatever the id of the element is. -/
theorem oneLine_elementRemark (e : Element) :
    OneLine (e.type.name ++ " '" ++ " ".intercalate (Text.words e.id) ++ "'") := by
  have hwords : OneLine (" ".intercalate (Text.words e.id)) :=
    oneLine_intercalate fun _ => oneLine_of_mem_words
  have hbefore : OneLine " '" := oneLine_ofList rfl
  have hafter : OneLine "'" := oneLine_ofList rfl
  exact (((oneLine_typeName e.type).append hbefore).append hwords).append hafter

end ScreenDesign.Dart
