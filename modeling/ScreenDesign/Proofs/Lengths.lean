import ScreenDesign.Proofs.Dart.Generation
import ScreenDesign.Proofs.Number.Whole
import ScreenDesign.Proofs.Preview.Measures
import ScreenDesign.Proofs.Resanitizing

/-!
# The lengths of sanitized elements

The lengths in the preview of a sanitized element come from two places.

*Fields.*  A number of a settled bag is finite, and it is a whole number or a binary64 number that
is not whole (`settle_eq_of_settled`).  So twice the number is finite as well, and with it the
shadow of a card.

*Columns.*  The width of a column is the number that its record is given or writes, and 120 if there
is none (`width_eq`).  Such a number is taken as it is, even if it is not finite, and the columns
that stand in for malformed ones have finite widths.

The lengths of the preview are therefore finite exactly if the widths of the columns that it shows
are (`lengths_of_sanitized`).
-/

namespace ScreenDesign

/-! ## Fields -/

/-- Twice a settled number is finite. -/
theorem Number.isFinite_double {n : Number} (hfinite : n.isFinite = true)
    (hsettle : n.settle = n) : n.double.isFinite = true := by
  cases n with
  | int i => rfl
  | float x =>
      refine Binary64.isFinite_double hfinite ?_
      rw [settle] at hsettle
      cases hwhole : x.whole? with
      | none => rfl
      | some k =>
          rw [hwhole] at hsettle
          cases hsettle

/-- A number under the key of a number is settled. -/
theorem ComponentType.settle_eq_of_settled {t : ComponentType} {bag : Bag} (h : t.Settled bag)
    {key : String} (hkey : key ∈ t.keysOf .number) {n : Number}
    (hget : Entries.get? bag key = some (.number n)) : n.settle = n := by
  obtain ⟨f, hf, hkind, rfl⟩ := mem_keysOf.mp hkey
  have hkept := h.kept _ (Entries.mem_of_get? hget)
  rcases judge_eq_keep hkept with ⟨hnone, -, -⟩ | ⟨kind, v, hfound, htake, hsame⟩
  · rw [kind?_key hf] at hnone
    cases hnone
  · obtain rfl : kind = .number := by
      rw [kind?_key hf, hkind] at hfound
      exact (Option.some.inj hfound).symm
    obtain ⟨m, hm, rfl⟩ := Option.map_eq_some_iff.mp htake
    obtain ⟨k, hk, rfl⟩ := Option.map_eq_some_iff.mp hm
    rw [Json.number.inj hsame, Number.settle_settle]

/-- The text of a structured field in a settled bag is the text in the record. -/
theorem ComponentType.Settled.get?_structured {t : ComponentType} {bag : Bag} {r : Record}
    {key : String} (h : t.Settled bag) (hr : Record.read t bag = .ok r)
    (hkey : key ∈ t.keysOf .structured) :
    Entries.get? bag key = some (.text (r.text key)) := by
  obtain ⟨f, hf, hkind, rfl⟩ := mem_keysOf.mp hkey
  obtain ⟨hget, hread⟩ := h.get?_key hf
  have hholds := Field.holds_of_read hf hread
  rw [Record.text, Record.value?_of_read hr hf]
  rw [hkind] at hholds
  cases hvalue : f.valueIn bag with
  | text s =>
      rw [hvalue] at hget
      exact hget
  | number n => rw [hvalue] at hholds; cases hholds
  | flag b => rw [hvalue] at hholds; cases hholds

namespace Content

/-- The columns whose widths a content shows. -/
def headColumns : Content → List Column
  | .grid g => if g.showHeader then g.table.columns else []
  | _ => []

/-- What is measured is a length, the double of one, or the width of a shown column. -/
theorem of_mem_measures {c : Content} {n : Number} (hn : n ∈ c.measures) :
    n ∈ c.lengths ∨ (∃ m ∈ c.lengths, n = m.double) ∨
      ∃ column ∈ c.headColumns, n = column.width := by
  cases c with
  | card c =>
      rcases List.mem_cons.mp hn with hdouble | hlength
      · exact .inr (.inl ⟨c.elevation, List.mem_cons_self, hdouble⟩)
      · exact .inl hlength
  | grid g =>
      refine .inr (.inr ?_)
      rw [measures] at hn
      rw [headColumns]
      split at hn
      case isTrue hshown =>
          obtain ⟨column, hcolumn, rfl⟩ := List.mem_map.mp hn
          exact ⟨column, by rwa [if_pos hshown], rfl⟩
      case isFalse => cases hn
  | _ => exact .inl hn

/-- Only tables show widths. -/
theorem exists_table_of_headColumns {t : ComponentType} {r : Record} {c : Content}
    (h : (ofRecord t r).result = .ok c) (hsome : c.headColumns ≠ []) :
    t = .dynamicTable ∧ ∃ table,
      (Structured.readTable (.text (r.text "columns")) (.text (r.text "data"))).result = .ok table ∧
      c.headColumns = table.columns := by
  cases t with
  | dynamicTable =>
      obtain ⟨table, htable, hc⟩ := bind_eq_ok.mp ((Logged.result_bind _ _).symm.trans h)
      cases hc
      refine ⟨rfl, table, htable, ?_⟩
      rw [headColumns] at hsome ⊢
      split at hsome
      case isTrue hshown => rw [if_pos hshown]; rfl
      case isFalse => exact absurd rfl hsome
  | list =>
      obtain ⟨items, -, hc⟩ := bind_eq_ok.mp ((Logged.result_bind _ _).symm.trans h)
      cases hc
      exact absurd rfl hsome
  | dropdown =>
      obtain ⟨choices, -, hc⟩ := bind_eq_ok.mp ((Logged.result_bind _ _).symm.trans h)
      cases hc
      exact absurd rfl hsome
  | _ =>
      cases h
      exact absurd rfl hsome

end Content

namespace Structured

/-! ## Columns -/

/-- The number that a value is or writes. -/
def written? : Json → Option Number
  | .number n => some n
  | .text s => (Numeral.readNumeral? s).map fun x => (Number.float x).settle
  | _ => none

theorem width_eq (j : Json) : width j = (written? j).getD defaultWidth := by
  cases j <;> rfl

/-- The number that a record gives as the width of its column. -/
def givenWidth? (record : Bag) : Option Number := written? ((record.get? "width").getD .null)

theorem width_of_column? {record : Bag} {c : Column} (h : column? record = some c) :
    c.width = (givenWidth? record).getD defaultWidth := by
  rw [column?] at h
  split at h
  · cases h
  split at h
  · cases h
  · cases h
    exact width_eq _

/-- Where columns that were read from a value have their widths from. -/
inductive WidthsOf (v : Json) : List Column → Prop where
  /-- The columns stand in for malformed ones. -/
  | standIn : WidthsOf v exampleColumns
  /-- Each column has the width that its record gives, or the usual one. -/
  | given {records : List Bag} {columns : List Column} (found : records? v = .ok (some records))
      (widths : List.Forall₂ (fun record c => c.width = (givenWidth? record).getD defaultWidth)
        records columns) : WidthsOf v columns

theorem widths_of_mapM {records : List Bag} {columns : List Column}
    (h : records.mapM column? = some columns) :
    List.Forall₂ (fun record c => c.width = (givenWidth? record).getD defaultWidth)
      records columns :=
  (mapM_eq_some_iff.mp h).imp fun _ _ => width_of_column?

theorem widthsOf_readTable {s t : String} {table : Table}
    (h : (readTable (.text s) (.text t)).result = .ok table) :
    WidthsOf (.text s) table.columns := by
  have houtcome := outcome_readTable s t
  rw [h] at houtcome
  cases houtcome with
  | made describes makes =>
      refine .given ?_ (widths_of_mapM makes)
      rw [records?, describes]
      exact congrArg Except.ok (bags?_eq_some_iff.mpr rfl)
  | replaced => exact .standIn

/-- A width that its record gives is finite exactly if the number is. -/
theorem isFinite_getD_iff (width : Option Number) :
    (width.getD defaultWidth).isFinite = true ↔ ∀ n ∈ width, n.isFinite = true := by
  cases width with
  | none => exact ⟨fun _ => nofun, fun _ => rfl⟩
  | some n => exact ⟨fun h m hm => Option.some.inj hm ▸ h, fun h => h n rfl⟩

/-- The widths that records give are finite exactly if the numbers are. -/
theorem isFinite_widths_iff {records : List Bag} {columns : List Column}
    (h : List.Forall₂ (fun record c => c.width = (givenWidth? record).getD defaultWidth)
      records columns) :
    (∀ c ∈ columns, c.width.isFinite = true) ↔
      ∀ record ∈ records, ∀ n ∈ givenWidth? record, n.isFinite = true := by
  induction h with
  | nil => exact ⟨fun _ => nofun, fun _ => nofun⟩
  | cons hwidth _ ih =>
      rw [List.forall_mem_cons, List.forall_mem_cons, hwidth, isFinite_getD_iff, ih]

/-- Columns that records make are the ones that are read. -/
theorem eq_of_readColumns {v : Json} {records : List Bag} {made columns : List Column}
    (hfound : records? v = .ok (some records)) (hmake : records.mapM column? = some made)
    (h : (readColumns v).result = .ok columns) : made = columns := by
  rw [readColumns, result_orExample, columns?, hfound] at h
  have hresult : (records.mapM column?).getD exampleColumns = columns := Except.ok.inj h
  rwa [hmake] at hresult

/-- The columns that are read from a value have the widths that its records give.  They are finite
unless the records make columns and one of them gives a number that is not finite. -/
theorem widths_of_readColumns {v : Json} {columns : List Column}
    (h : (readColumns v).result = .ok columns) :
    WidthsOf v columns ∧ ((∀ c ∈ columns, c.width.isFinite = true) ↔
      ∀ records made, records? v = .ok (some records) → records.mapM column? = some made →
        ∀ record ∈ records, ∀ n ∈ givenWidth? record, n.isFinite = true) := by
  have hcases : (∃ records, records? v = .ok (some records) ∧
      records.mapM column? = some columns) ∨ columns = exampleColumns := made_or_standIn rfl h
  refine ⟨?_, fun hfinite records made hfound hmake => ?_, fun hgiven => ?_⟩
  · obtain ⟨records, hfound, hmake⟩ | rfl := hcases
    · exact .given hfound (widths_of_mapM hmake)
    · exact .standIn
  · obtain rfl := eq_of_readColumns hfound hmake h
    exact (isFinite_widths_iff (widths_of_mapM hmake)).mp hfinite
  · obtain ⟨records, hfound, hmake⟩ | rfl := hcases
    · exact (isFinite_widths_iff (widths_of_mapM hmake)).mpr (hgiven records columns hfound hmake)
    · decide

end Structured

/-! ## Elements -/

namespace Element

variable {e : Element} {c : Content}

/-- The lengths of an element with a settled bag are finite if the widths of the shown columns
are. -/
theorem isFinite_of_mem_measures (h : e.type.Settled e.properties)
    (hc : e.content.result = .ok c)
    (hcolumns : ∀ column ∈ c.headColumns, column.width.isFinite = true) :
    ∀ n ∈ c.measures, n.isFinite = true := by
  intro n hn
  rcases Content.of_mem_measures hn with hlength | ⟨m, hlength, rfl⟩ | ⟨column, hcolumn, rfl⟩
  · exact (length_of_settled h hc hlength).1
  · obtain ⟨hfinite, key, hkey, hget⟩ := length_of_settled h hc hlength
    exact Number.isFinite_double hfinite (ComponentType.settle_eq_of_settled h hkey hget)
  · exact hcolumns column hcolumn

/-- The columns of an element with a settled bag are read from a text in the bag. -/
theorem widthsOf_headColumns (h : e.type.Settled e.properties) (hc : e.content.result = .ok c)
    (hsome : c.headColumns ≠ []) :
    ∃ s, Entries.get? e.properties "columns" = some (.text s) ∧
      Structured.WidthsOf (.text s) c.headColumns := by
  obtain ⟨r, hread, -⟩ := h.exists_read
  have hr : e.record.result = .ok r := by rw [record_of_read hread]; rfl
  rw [result_content hr] at hc
  obtain ⟨htable, table, hfound, hcolumns⟩ := Content.exists_table_of_headColumns hc hsome
  refine ⟨r.text "columns", h.get?_structured hread ?_, ?_⟩
  · rw [htable]
    decide
  · rw [hcolumns]
    exact Structured.widthsOf_readTable hfound

/-- A preview has finite lengths exactly if the widths of the shown columns are finite. -/
theorem measured_preview_iff (h : e.type.Settled e.properties) {theme : Theme} {n : Node}
    (hn : (e.preview theme).result = .ok n) :
    ∃ c, e.content.result = .ok c ∧
      (n.Measured ↔ ∀ column ∈ c.headColumns, column.width.isFinite = true) := by
  rw [preview, Logged.result_bind, bind_eq_ok] at hn
  obtain ⟨c, hc, hn⟩ := hn
  refine ⟨c, hc, fun hmeasured => ?_, fun hcolumns => ?_⟩
  · cases c with
    | grid g =>
        cases hn
        rw [Content.headColumns]
        split
        case isTrue hshown => exact Paint.isFinite_of_measured_grid hmeasured hshown
        case isFalse => exact List.forall_mem_nil _
    | _ => exact List.forall_mem_nil _
  · exact Paint.measured_of_content hn (isFinite_of_mem_measures h hc hcolumns)

/-- The lengths of a preview.  Every length in the styles of the preview of a sanitized element is a
finite number with its unit, unless the preview shows a column whose width is not finite.  The
columns of a table are read from the text that its bag holds.

Columns that are read from a value have the widths that their records give, or 120 where a record
gives none.  They are all finite unless one of the records gives a number that is not finite. -/
theorem lengths_of_sanitized (raw : Json) (id : String) :
    (∀ dark n, ((Sanitize.element raw id).preview (Theme.of dark)).result = .ok n →
      ∃ c, (Sanitize.element raw id).content.result = .ok c ∧
        (n.Measured ↔ ∀ column ∈ c.headColumns, column.width.isFinite = true) ∧
        (c.headColumns ≠ [] → ∃ s,
          Entries.get? (Sanitize.element raw id).properties "columns" = some (.text s) ∧
          Structured.WidthsOf (.text s) c.headColumns)) ∧
      ∀ v columns, (Structured.readColumns v).result = .ok columns →
        Structured.WidthsOf v columns ∧ ((∀ c ∈ columns, c.width.isFinite = true) ↔
          ∀ records made, Structured.records? v = .ok (some records) →
            records.mapM Structured.column? = some made →
              ∀ record ∈ records, ∀ n ∈ Structured.givenWidth? record, n.isFinite = true) := by
  have hsettled := (Sanitize.stable_element raw id).settled
  refine ⟨fun dark n hn => ?_, fun v columns => Structured.widths_of_readColumns⟩
  obtain ⟨c, hc, hmeasured⟩ := measured_preview_iff hsettled hn
  exact ⟨c, hc, hmeasured, widthsOf_headColumns hsettled hc⟩

/-- A card with an elevation that is not whole and a padding that is no number. -/
def lengthCard : Element :=
  Sanitize.element (.object [("type", .text "card"), ("properties",
    .object [("elevation", .text "2.5"), ("padding", .text "nan")])]) "element-0"

/-- Two columns, of which one gives a numeral. -/
def widthColumns : Json :=
  .list [.object [("id", .text "age")], .object [("id", .text "city"), ("width", .text "90")]]

theorem lengths_of_sanitized_card :
    (∃ n, (lengthCard.preview (Theme.of false)).result = .ok n ∧ n.Measured) ∧
      (Structured.readColumns widthColumns).result =
        .ok [⟨"age", "age", .int 120⟩, ⟨"city", "city", .int 90⟩] ∧
      Structured.WidthsOf widthColumns [⟨"age", "age", .int 120⟩, ⟨"city", "city", .int 90⟩] := by
  obtain ⟨hpreview, hcolumns⟩ := lengths_of_sanitized
    (.object [("type", .text "card"), ("properties",
      .object [("elevation", .text "2.5"), ("padding", .text "nan")])]) "element-0"
  obtain ⟨n, hn⟩ : ∃ n, (lengthCard.preview (Theme.of false)).result = .ok n := ⟨_, rfl⟩
  obtain ⟨c, -, hmeasured, htext⟩ := hpreview false n hn
  have hnone : c.headColumns = [] := by
    by_contra hsome
    obtain ⟨s, hs, -⟩ := htext hsome
    cases hs
  have hread : (Structured.readColumns widthColumns).result =
      .ok [⟨"age", "age", .int 120⟩, ⟨"city", "city", .int 90⟩] := rfl
  refine ⟨⟨n, hn, hmeasured.mpr ?_⟩, hread, (hcolumns _ _ hread).1⟩
  rw [hnone]
  exact nofun

/-- A table with a column whose width is the name of an infinity. -/
def endlessTable : Element :=
  Sanitize.element (.object [("type", .text "dynamicTable"), ("properties", .object
    [("columns", .list [.object [("id", .text "a"), ("width", .text "inf")]]),
     ("data", .list [])])]) "element-0"

/-- The width is not replaced by 120, and the preview shows it. -/
theorem endless_width :
    (Structured.readColumns (.list [.object [("id", .text "a"), ("width", .text "inf")]])).result =
        .ok [⟨"a", "a", .float (.infinite false)⟩] ∧
      ∃ n, (endlessTable.preview (Theme.of false)).result = .ok n ∧ ¬ n.Measured := by
  have hwidths : endlessTable.content.result.toOption.map
      (fun c => c.headColumns.map Column.width) = some [.float (.infinite false)] := by
    decide +kernel
  obtain ⟨c, hc, hcolumns⟩ : ∃ c, endlessTable.content.result = .ok c ∧
      c.headColumns.map Column.width = [.float (.infinite false)] := by
    cases hc : endlessTable.content.result with
    | error f =>
        rw [hc] at hwidths
        cases hwidths
    | ok c =>
        rw [hc] at hwidths
        exact ⟨c, rfl, Option.some.inj hwidths⟩
  refine ⟨rfl, ?_⟩
  cases c with
  | grid g =>
      refine ⟨Paint.grid (Theme.of false) g, result_preview hc _, fun h => ?_⟩
      rw [Content.headColumns] at hcolumns
      split at hcolumns
      case isTrue hshown =>
          have hfinite : ∀ n ∈ g.table.columns.map Column.width, n.isFinite = true :=
            List.forall_mem_map.mpr (Paint.isFinite_of_measured_grid h hshown)
          rw [hcolumns] at hfinite
          cases hfinite _ List.mem_cons_self
      case isFalse => cases hcolumns
  | _ => cases hcolumns

end Element

end ScreenDesign
