import ScreenDesign.Coercion
import ScreenDesign.Proofs.Json.Roundtrip
import ScreenDesign.Proofs.Structured

/-!
# Lists and their encodings

A list of records may be given as it stands or as text: its compact text, or the text that
coercion stores in its place (`Form`).  As long as the text keeps the list whole, every reader
has the same result for all of these (`read_alike`), and a list of objects gives back its
objects as rows.

A reader looks at a value only through its records, and the compact text of a list is read as
the list.
-/

namespace ScreenDesign.Structured

/-- The forms in which a list is given. -/
inductive Form (v : List Json) : Json → Prop where
  /-- The list as it stands. -/
  | native : Form v (.list v)
  /-- Its compact text. -/
  | encoded : Form v (.text (Json.list v).compact)
  /-- The text that coercion stores in its place. -/
  | stored {s : String} (coerced : (Json.list v).toStructured? = some s) : Form v (.text s)

/-- Two computations have a result, and it is the same. -/
def SameResult {α : Type} (x y : Logged α) : Prop := ∃ a, x.result = .ok a ∧ y.result = .ok a

/-! ## Records of a form -/

theorem records?_compact {v : List Json} (hv : (Json.list v).isWritable = true) :
    records? (.text (Json.list v).compact) = .ok (bags? (.list v)) := by
  rw [records?, Json.parse_compact hv]

/-- All forms of a list have the records of the list. -/
theorem Form.records? {v : List Json} {j : Json} (h : Form v j)
    (hv : (Json.list v).isWritable = true) : records? j = .ok (bags? (.list v)) := by
  cases h with
  | native => rfl
  | encoded => exact records?_compact hv
  | stored coerced =>
      obtain rfl := Option.some.inj coerced
      exact records?_compact hv

/-! ## Readers -/

section

variable {j : Json} {records : Option (List Bag)} (h : records? j = .ok records)

include h

theorem result_readChoices :
    (readChoices j).result = .ok ((records.bind (List.mapM choice?)).getD exampleChoices) := by
  rw [readChoices, result_orExample, choices?, h]
  rfl

theorem result_readColumns :
    (readColumns j).result = .ok ((records.bind (List.mapM column?)).getD exampleColumns) := by
  rw [readColumns, result_orExample, columns?, h]
  rfl

theorem result_readRows : (readRows j).result = .ok (records.getD exampleRows) := by
  rw [readRows, result_orExample, h]
  rfl

theorem result_readItems :
    (readItems j).result = .ok ((records.map (List.mapIdx item)).getD exampleItems) := by
  rw [readItems, result_orExample, items?, h]
  rfl

theorem result_readTable_of_records {k : Json} {rows : Option (List Bag)}
    (h' : records? k = .ok rows) :
    (readTable j k).result = .ok (((records.bind (List.mapM column?)).bind fun columns =>
      rows.map (Table.mk columns)).getD exampleTable) := by
  rw [result_readTable, columns?, h, h']
  rfl

end

/-- Every form of a list is read like the list, alone or as half of a table. -/
theorem read_alike {v w : List Json} (hv : (Json.list v).isKept = true)
    (hw : (Json.list w).isKept = true) {j k : Json} (hj : Form v j) (hk : Form w k) :
    SameResult (readChoices j) (readChoices (.list v)) ∧
      SameResult (readColumns j) (readColumns (.list v)) ∧
      SameResult (readRows j) (readRows (.list v)) ∧
      SameResult (readItems j) (readItems (.list v)) ∧
      SameResult (readTable j k) (readTable (.list v) (.list w)) ∧
      (∀ rows : List Row, v = rows.map .object → (readRows j).result = .ok rows) ∧
      ∃ s, (Json.list v).toStructured? = some s ∧ Form v (.text s) := by
  have hwritable := Json.isWritable_of_isKept hv
  have hwritableRows := Json.isWritable_of_isKept hw
  have hrecords := hj.records? hwritable
  have hrows := hk.records? hwritableRows
  have hnative := Form.native.records? hwritable
  have hnativeRows := Form.native.records? hwritableRows
  refine ⟨⟨_, result_readChoices hrecords, result_readChoices hnative⟩,
    ⟨_, result_readColumns hrecords, result_readColumns hnative⟩,
    ⟨_, result_readRows hrecords, result_readRows hnative⟩,
    ⟨_, result_readItems hrecords, result_readItems hnative⟩,
    ⟨_, result_readTable_of_records hrecords hrows,
      result_readTable_of_records hnative hnativeRows⟩,
    ?_, (Json.list v).compact, rfl, .stored rfl⟩
  rintro rows rfl
  have hbags : bags? (.list (rows.map .object)) = some rows := bags?_eq_some_iff.mpr rfl
  rw [result_readRows hrecords, hbags]
  rfl

/-- Rows with an escaped text, an infinity, a nested list and nothing at all. -/
def sampleRows : List Row :=
  [[("id", .text "a\\\x01\n"), ("width", .float (.infinite true))],
    [("id", .list [.null, .int (-7), .object []])], []]

theorem read_alike_sampleRows :
    (Json.list (sampleRows.map .object)).isKept = true ∧
      (readRows (.text (Json.list (sampleRows.map .object)).compact)).result = .ok sampleRows ∧
      SameResult
        (readTable (.text (Json.list (sampleRows.map .object)).compact)
          (.list (sampleRows.map .object)))
        (readTable (.list (sampleRows.map .object)) (.list (sampleRows.map .object))) := by
  have hkept : (Json.list (sampleRows.map .object)).isKept = true := by decide
  obtain ⟨-, -, -, -, htable, hrows, -⟩ := read_alike hkept hkept .encoded .native
  exact ⟨hkept, hrows sampleRows rfl, htable⟩

end ScreenDesign.Structured
