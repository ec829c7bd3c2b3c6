import ScreenDesign.Proofs.Json.Digits
import ScreenDesign.Proofs.Number.Text
import ScreenDesign.Proofs.Results
import ScreenDesign.Structured

/-!
# Reading structured texts

A text *describes* records if it writes a list of objects.  Each reader makes something
of the records, or else puts its example in their place.  `Outcome` is what a reader can
end with: what the records make, exactly the example, or a failure, which only a number
with too many digits brings about.  All readers of texts have their outcomes
(`outcome_readChoices` and those after it).

What is made of records is well formed: a column has an id and an item has a title.
-/

namespace ScreenDesign

/-! ## Texts of values -/

/-- Only nothing and the empty text have an empty text. -/
theorem Json.plain_ne_empty {j : Json} (hnull : j ≠ .null) (hempty : j ≠ .text "") :
    j.plain ≠ "" := by
  have hliteral (k : Json) (cs : List Char) (c : Char) (h : literalChars k = c :: cs) :
      k.literal ≠ "" := by
    rw [literal, h, ← String.ofList_nil, Ne, String.ofList_inj]
    exact List.cons_ne_nil c cs
  cases j with
  | null => exact absurd rfl hnull
  | bool b => cases b <;> decide
  | number n => exact n.settle.text_ne_empty
  | text s => exact fun h => hempty (congrArg Json.text h)
  | list items =>
      cases items with
      | nil => exact hliteral _ _ _ rfl
      | cons j js => exact hliteral _ _ _ rfl
  | object members =>
      cases members with
      | nil => exact hliteral _ _ _ rfl
      | cons m ms => exact hliteral _ _ _ rfl

namespace Structured

open Json (Readable)

/-! ## Records in a text -/

/-- A text writes a list of objects, which are records. -/
def Describes (s : String) (records : List Bag) : Prop :=
  Json.parse s = .ok (.list (records.map .object))

theorem Describes.unique {s : String} {records others : List Bag} (h : Describes s records)
    (h' : Describes s others) : records = others := by
  have hlists := Json.list.inj (Except.ok.inj (h.symm.trans h'))
  exact (List.map_injective_iff.mpr fun _ _ => Json.object.inj) hlists

theorem bag?_eq_some_iff {j : Json} {bag : Bag} : bag? j = some bag ↔ j = .object bag := by
  cases j <;> simp [bag?]

theorem mapM_eq_some_iff {β γ : Type} {f : β → Option γ} {bs : List β} {cs : List γ} :
    bs.mapM f = some cs ↔ List.Forall₂ (fun b c => f b = some c) bs cs := by
  induction bs generalizing cs with
  | nil => cases cs <;> simp
  | cons b bs ih =>
      cases cs with
      | nil => simp [Option.bind_eq_some_iff]
      | cons c cs => simp [Option.bind_eq_some_iff, ih]

theorem exists_of_mapM_eq_some {β γ : Type} {f : β → Option γ} {bs : List β} {cs : List γ}
    (h : bs.mapM f = some cs) : ∀ c ∈ cs, ∃ b ∈ bs, f b = some c := by
  have hall := mapM_eq_some_iff.mp h
  clear h
  induction hall with
  | nil => exact nofun
  | @cons b c bs cs hc _ ih =>
      refine List.forall_mem_cons.mpr ⟨⟨b, List.mem_cons_self, hc⟩, fun d hd => ?_⟩
      obtain ⟨a, ha, had⟩ := ih d hd
      exact ⟨a, List.mem_cons_of_mem b ha, had⟩

theorem bags?_eq_some_iff {j : Json} {records : List Bag} :
    bags? j = some records ↔ j = .list (records.map .object) := by
  cases j with
  | list items =>
      rw [bags?, Json.list.injEq, mapM_eq_some_iff, ← List.forall₂_eq_eq_eq, List.forall₂_map_right_iff]
      simp only [bag?_eq_some_iff]
  | _ => simp [bags?]

theorem Describes.readable {s : String} {records : List Bag} (h : Describes s records) :
    Readable s := by
  intro count hparse
  rw [Describes, hparse] at h
  cases h

/-- The records in a text, if it can be read. -/
theorem records?_text (s : String) :
    (∃ records, Describes s records ∧ records? (.text s) = .ok (some records)) ∨
      (Readable s ∧ (∀ records, ¬ Describes s records) ∧ records? (.text s) = .ok none) ∨
      ∃ count, Json.parse s = .error (.tooManyDigits count) ∧
        records? (.text s) = .error (.unreadable (.tooManyDigits count)) := by
  cases hparse : Json.parse s with
  | ok j =>
      have hrecords : records? (.text s) = .ok (bags? j) := by rw [records?, hparse]
      cases hbags : bags? j with
      | some records =>
          obtain rfl := bags?_eq_some_iff.mp hbags
          exact .inl ⟨records, hparse, hrecords.trans (congrArg Except.ok hbags)⟩
      | none =>
          refine .inr (.inl ⟨fun count h => ?_, fun records h => ?_, by rw [hrecords, hbags]⟩)
          · rw [hparse] at h
            cases h
          · rw [Describes, hparse, Except.ok.injEq] at h
            rw [bags?_eq_some_iff.mpr h] at hbags
            cases hbags
  | error e =>
      cases e with
      | malformed found line column offset =>
          refine .inr (.inl ⟨fun count h => ?_, fun records h => ?_, by rw [records?, hparse]⟩)
          · rw [hparse] at h
            cases h
          · rw [Describes, hparse] at h
            cases h
      | tooManyDigits count => exact .inr (.inr ⟨count, rfl, by rw [records?, hparse]⟩)

variable {α : Type}

/-- What is made of the records in a text, if it can be read. -/
theorem made_text (make : List Bag → Option α) (s : String) :
    (∃ records a, Describes s records ∧ make records = some a ∧
        (records? (.text s)).map (·.bind make) = .ok (some a)) ∨
      (Readable s ∧ (∀ records, Describes s records → make records = none) ∧
        (records? (.text s)).map (·.bind make) = .ok none) ∨
      ∃ count, Json.parse s = .error (.tooManyDigits count) ∧
        (records? (.text s)).map (·.bind make) = .error (.unreadable (.tooManyDigits count)) := by
  obtain ⟨records, hdescribes, hfound⟩ | ⟨hreadable, hnone, hfound⟩ | ⟨count, htooMany, hfound⟩ :=
    records?_text s
  · have hmade : (records? (.text s)).map (·.bind make) = .ok (make records) := by
      rw [hfound]
      rfl
    rw [hmade]
    cases hmake : make records with
    | some a => exact .inl ⟨records, a, hdescribes, hmake, rfl⟩
    | none =>
        refine .inr (.inl ⟨hdescribes.readable, fun others hothers => ?_, rfl⟩)
        rw [hothers.unique hdescribes, hmake]
  · rw [hfound]
    exact .inr (.inl ⟨hreadable, fun records h => absurd h (hnone records), rfl⟩)
  · rw [hfound]
    exact .inr (.inr ⟨count, htooMany, rfl⟩)

/-! ## Outcomes -/

/-- What reading a text can end with, for a reader that makes something of records. -/
inductive Outcome (make : List Bag → Option α) (standIn : α) (s : String) :
    Except Failure α → Prop
  /-- The records of the text make the result. -/
  | made {records : List Bag} {a : α} (describes : Describes s records)
      (makes : make records = some a) : Outcome make standIn s (.ok a)
  /-- The text can be read, but has no records that make anything. -/
  | replaced (readable : Readable s) (unmade : ∀ records, Describes s records → make records = none) :
      Outcome make standIn s (.ok standIn)
  /-- The text has a number with too many digits. -/
  | stopped {count : Nat} (tooMany : Json.parse s = .error (.tooManyDigits count)) :
      Outcome make standIn s (.error (.unreadable (.tooManyDigits count)))

/-- Exactly from a readable text there is a result. -/
theorem Outcome.exists_ok_iff {make : List Bag → Option α} {standIn : α} {s : String}
    {x : Except Failure α} (h : Outcome make standIn s x) : (∃ a, x = .ok a) ↔ Readable s := by
  cases h with
  | made describes => exact ⟨fun _ => describes.readable, fun _ => ⟨_, rfl⟩⟩
  | replaced readable => exact ⟨fun _ => readable, fun _ => ⟨_, rfl⟩⟩
  | stopped tooMany => exact ⟨nofun, fun hs => absurd tooMany (hs _)⟩

/-- A reader fails only at a number with too many digits. -/
theorem Outcome.eq_error {make : List Bag → Option α} {standIn : α} {s : String} {f : Failure}
    (h : Outcome make standIn s (.error f)) :
    ∃ count, Numeral.maxDigits < count ∧ f = .unreadable (.tooManyDigits count) := by
  cases h with
  | stopped tooMany => exact ⟨_, (Json.hasDigits_of_parse tooMany).1, rfl⟩

/-! ## Readers -/

/-- The result of a reader is what it found or else its example. -/
theorem result_orExample (what : String) (standIn : α) (j : Json)
    (found : Except Failure (Option α)) :
    (orExample what standIn j found).result = found.map fun a => a.getD standIn := by
  cases found with
  | error e => rfl
  | ok a =>
      cases a with
      | none => rfl
      | some a => rfl

/-- A result is made of the records of the value, or it is the example. -/
theorem made_or_standIn {what : String} {make : List Bag → Option α} {standIn a : α} {j : Json}
    {found : Except Failure (Option α)} (hfound : (records? j).map (·.bind make) = found)
    (h : (orExample what standIn j found).result = .ok a) :
    (∃ records, records? j = .ok (some records) ∧ make records = some a) ∨ a = standIn := by
  subst hfound
  rw [result_orExample] at h
  obtain ⟨made, hmade, rfl⟩ := map_eq_ok.mp h
  obtain ⟨records, hrecords, rfl⟩ := map_eq_ok.mp hmade
  cases records with
  | none => exact .inr rfl
  | some records =>
      cases hmake : make records with
      | none => exact .inr (congrArg (Option.getD · standIn) hmake)
      | some a => exact .inl ⟨records, hrecords, by rw [Option.bind_some, hmake, Option.getD_some]⟩

/-- Rows are the records themselves. -/
theorem map_records?_some (j : Json) :
    (records? j).map (·.bind some) = records? j := by
  cases records? j with
  | error e => rfl
  | ok records => cases records <;> rfl

theorem items?_eq (j : Json) :
    items? j = (records? j).map (·.bind fun records => some (records.mapIdx item)) := by
  rw [items?]
  cases records? j with
  | error e => rfl
  | ok records => cases records <;> rfl

/-- A reader that makes its result of records has an outcome. -/
theorem outcome_orExample (what : String) {make : List Bag → Option α} (standIn : α) {s : String}
    {found : Except Failure (Option α)} (h : (records? (.text s)).map (·.bind make) = found) :
    Outcome make standIn s (orExample what standIn (.text s) found).result := by
  obtain ⟨records, a, hdescribes, hmake, hfound⟩ | ⟨hreadable, hnone, hfound⟩ |
    ⟨count, htooMany, hfound⟩ := made_text make s
  · obtain rfl := h.symm.trans hfound
    exact .made hdescribes hmake
  · obtain rfl := h.symm.trans hfound
    exact .replaced hreadable hnone
  · obtain rfl := h.symm.trans hfound
    exact .stopped htooMany

theorem outcome_readChoices (s : String) :
    Outcome (List.mapM choice?) exampleChoices s (readChoices (.text s)).result :=
  outcome_orExample "options" exampleChoices rfl

theorem outcome_readColumns (s : String) :
    Outcome (List.mapM column?) exampleColumns s (readColumns (.text s)).result :=
  outcome_orExample "columns" exampleColumns rfl

theorem outcome_readRows (s : String) :
    Outcome some exampleRows s (readRows (.text s)).result :=
  outcome_orExample "rows" exampleRows (map_records?_some _)

theorem outcome_readItems (s : String) :
    Outcome (fun records => some (records.mapIdx item)) exampleItems s
      (readItems (.text s)).result :=
  outcome_orExample "list data" exampleItems (items?_eq _).symm

/-! ## Tables -/

/-- What reading the two texts of a table can end with. -/
inductive TableOutcome (s t : String) : Except Failure Table → Prop
  /-- Both texts describe records, and those of the first make columns. -/
  | made {records rows : List Bag} {columns : List Column} (describes : Describes s records)
      (makes : records.mapM column? = some columns) (describesRows : Describes t rows) :
      TableOutcome s t (.ok ⟨columns, rows⟩)
  /-- Both texts can be read, but do not make a table together. -/
  | replaced (readable : Readable s) (readableRows : Readable t)
      (unmade : ∀ records rows, Describes s records → Describes t rows →
        records.mapM column? = none) :
      TableOutcome s t (.ok exampleTable)
  /-- One of the texts has a number with too many digits. -/
  | stopped {count : Nat} (tooMany : Json.parse s = .error (.tooManyDigits count) ∨
      Json.parse t = .error (.tooManyDigits count)) :
      TableOutcome s t (.error (.unreadable (.tooManyDigits count)))

/-- The result of reading a table, from the records of both texts. -/
theorem result_readTable (columns rows : Json) :
    (readTable columns rows).result =
      (columns? columns >>= fun columns => (records? rows).map fun rows =>
        ((columns.bind fun columns => rows.map (Table.mk columns)).getD exampleTable)) := by
  have hofExcept {β : Type} (x : Except Failure β) : (Logged.ofExcept x).result = x := rfl
  simp only [readTable, Logged.result_bind, hofExcept]
  cases columns? columns with
  | error e => rfl
  | ok columns =>
      cases records? rows with
      | error e => rfl
      | ok rows => cases columns <;> cases rows <;> rfl

theorem outcome_readTable (s t : String) :
    TableOutcome s t (readTable (.text s) (.text t)).result := by
  rw [result_readTable, columns?]
  obtain ⟨records, columns, hdescribes, hmake, hcolumns⟩ | ⟨hreadable, hnone, hcolumns⟩ |
    ⟨count, htooMany, hcolumns⟩ := made_text (List.mapM column?) s
  · rw [hcolumns]
    obtain ⟨rows, hrows, hfound⟩ | ⟨hreadable, hnone, hfound⟩ | ⟨count, htooMany, hfound⟩ :=
      records?_text t
    · rw [hfound]
      exact .made hdescribes hmake hrows
    · rw [hfound]
      exact .replaced hdescribes.readable hreadable fun _ rows _ hrows => absurd hrows (hnone rows)
    · rw [hfound]
      exact .stopped (.inr htooMany)
  · rw [hcolumns]
    obtain ⟨rows, hrows, hfound⟩ | ⟨hreadableRows, -, hfound⟩ | ⟨count, htooMany, hfound⟩ :=
      records?_text t
    · rw [hfound]
      exact .replaced hreadable hrows.readable fun records _ hrecords _ => hnone records hrecords
    · rw [hfound]
      exact .replaced hreadable hreadableRows fun records _ hrecords _ => hnone records hrecords
    · rw [hfound]
      exact .stopped (.inr htooMany)
  · rw [hcolumns]
    exact .stopped (.inl htooMany)

/-- Exactly from readable texts there is a table. -/
theorem TableOutcome.exists_ok_iff {s t : String} {x : Except Failure Table}
    (h : TableOutcome s t x) : (∃ table, x = .ok table) ↔ Readable s ∧ Readable t := by
  cases h with
  | made describes _ describesRows =>
      exact ⟨fun _ => ⟨describes.readable, describesRows.readable⟩, fun _ => ⟨_, rfl⟩⟩
  | replaced readable readableRows =>
      exact ⟨fun _ => ⟨readable, readableRows⟩, fun _ => ⟨_, rfl⟩⟩
  | stopped tooMany =>
      refine ⟨nofun, fun hst => ?_⟩
      rcases tooMany with h | h
      · exact absurd h (hst.1 _)
      · exact absurd h (hst.2 _)

theorem TableOutcome.eq_error {s t : String} {f : Failure} (h : TableOutcome s t (.error f)) :
    ∃ count, Numeral.maxDigits < count ∧ f = .unreadable (.tooManyDigits count) := by
  cases h with
  | stopped tooMany =>
      rcases tooMany with h | h
      · exact ⟨_, (Json.hasDigits_of_parse h).1, rfl⟩
      · exact ⟨_, (Json.hasDigits_of_parse h).1, rfl⟩

/-! ## Well-formed records -/

theorem ne_null_of_given? {record : Bag} {key : String} {j : Json}
    (h : given? record key = some j) : j ≠ .null := by
  have := (Option.filter_eq_some_iff.mp h).2
  simpa using this

/-- A column has an id. -/
theorem id_ne_empty_of_column? {record : Bag} {c : Column} (h : column? record = some c) :
    c.id ≠ "" := by
  rw [column?] at h
  cases hid : given? record "id" with
  | none => rw [hid] at h; cases h
  | some id =>
      simp only [hid] at h
      split at h
      · cases h
      · cases h
        exact Json.plain_ne_empty (ne_null_of_given? hid) ‹_›

/-- An item has a title. -/
theorem title_item_ne_empty (position : Nat) (record : Bag) : (item position record).title ≠ "" := by
  simp only [item]
  split
  case isTrue htruthy =>
    refine Json.plain_ne_empty (fun h => ?_) fun h => ?_
    · rw [h] at htruthy
      cases htruthy
    · rw [h] at htruthy
      cases htruthy
  case isFalse => simp

theorem id_ne_empty_of_mapM {records : List Bag} {columns : List Column}
    (h : records.mapM column? = some columns) : ∀ c ∈ columns, c.id ≠ "" := by
  intro c hc
  obtain ⟨record, -, hcolumn⟩ := exists_of_mapM_eq_some h c hc
  exact id_ne_empty_of_column? hcolumn

theorem id_ne_empty_of_readColumns {j : Json} {columns : List Column}
    (h : (readColumns j).result = .ok columns) : ∀ c ∈ columns, c.id ≠ "" := by
  obtain ⟨records, -, hmake⟩ | rfl := made_or_standIn rfl h
  · exact id_ne_empty_of_mapM hmake
  · decide

theorem title_ne_empty_of_readItems {j : Json} {items : List ListItem}
    (h : (readItems j).result = .ok items) : ∀ i ∈ items, i.title ≠ "" := by
  obtain ⟨records, -, hmake⟩ | rfl := made_or_standIn (items?_eq j).symm h
  · obtain rfl := Option.some.inj hmake
    intro i hi
    obtain ⟨position, hposition, rfl⟩ := List.mem_mapIdx.mp hi
    exact title_item_ne_empty _ _
  · decide

theorem id_ne_empty_of_readTable {s t : String} {table : Table}
    (h : (readTable (.text s) (.text t)).result = .ok table) : ∀ c ∈ table.columns, c.id ≠ "" := by
  have houtcome := outcome_readTable s t
  rw [h] at houtcome
  cases houtcome with
  | made _ makes => exact id_ne_empty_of_mapM makes
  | replaced => decide

end Structured

end ScreenDesign
