import ScreenDesign.Proofs.Dart.Numbers
import ScreenDesign.Proofs.Readable

/-!
# Reading is forgiving

Any text can stand in the place of records: what it does not describe is replaced by an
example.  The one exception is a text with more than 4300 digits in a row, which may hold
a whole number with too many digits.

So a readable text makes neither the preview nor the widget of its element fail
(`Element.Legible.failures`).  What is left to fail is the shadow of a card in a preview and
a length in a widget.  A text that is not readable makes both fail
(`Element.failures_of_not_readable`).
-/

namespace ScreenDesign

open Json (Readable)

/-! ## Elements with records -/

/-- What a type with structured fields shows. -/
inductive Content.OfRecords : ComponentType → Content → Prop
  | list (l : Content.Listing) : OfRecords .list (.list l)
  | dropdown (d : Content.Dropdown) : OfRecords .dropdown (.dropdown d)
  | grid (g : Content.Grid) : OfRecords .dynamicTable (.grid g)

namespace Content

variable {t : ComponentType} {r : Record}

theorem ofRecords_of_ofRecord {c : Content} (h : (ofRecord t r).result = .ok c)
    (hkeys : t.keysOf .structured ≠ []) : OfRecords t c := by
  rw [ComponentType.keysOf_structured] at hkeys
  cases t with
  | list =>
      obtain ⟨items, -, hc⟩ := bind_eq_ok.mp ((Logged.result_bind _ _).symm.trans h)
      cases hc
      exact .list _
  | dropdown =>
      obtain ⟨choices, -, hc⟩ := bind_eq_ok.mp ((Logged.result_bind _ _).symm.trans h)
      cases hc
      exact .dropdown _
  | dynamicTable =>
      obtain ⟨table, -, hc⟩ := bind_eq_ok.mp ((Logged.result_bind _ _).symm.trans h)
      cases hc
      exact .grid _
  | _ => exact absurd rfl hkeys

end Content

theorem Number.px?_eq_error {n : Number} {f : Failure} (h : n.px? = .error f) :
    f = .tooLongToWrite := by
  cases n with
  | int i =>
      rw [px?.eq_1] at h
      split at h
      · cases h
        rfl
      · cases h
  | float x => cases h

/-- The picture of a content fails only at the shadow of a card. -/
theorem Paint.content_eq_error {theme : Theme} {c : Content} {f : Failure}
    (h : Paint.content theme c = .error f) : f = .tooLongToWrite := by
  cases c with
  | card c =>
      rw [Paint.content, card, shadow] at h
      cases hblur : c.elevation.double.px? with
      | ok blur =>
          rw [hblur] at h
          cases h
      | error e =>
          rw [hblur] at h
          cases h
          exact Number.px?_eq_error hblur
  | _ => cases h

namespace Element

variable {e : Element}

/-- An element with readable texts fails neither in a preview nor in a program because of
them. -/
theorem Legible.failures (h : e.Legible) :
    (∀ theme f, (e.preview theme).result = .error f → f = .tooLongToWrite) ∧
      ∀ index f, (Dart.elementWidget index e).result = .error f → f = .tooLarge := by
  obtain ⟨c, hc⟩ := h.exists_content
  constructor
  · intro theme f hf
    rw [result_preview hc] at hf
    exact Paint.content_eq_error hf
  · intro index f hf
    rw [result_elementWidget hc] at hf
    exact Dart.widget_eq_error hf

/-- An element with structured fields has a preview, and it has a widget unless it is a list
with items that are too high. -/
theorem Legible.exists_drawing (h : e.Legible) (hkeys : e.type.keysOf .structured ≠ []) :
    (∀ theme, ∃ node, (e.preview theme).result = .ok node) ∧
      (e.type ≠ .list → ∀ index, ∃ l, (Dart.elementWidget index e).result = .ok l) := by
  obtain ⟨r, hr, -⟩ := e.exists_record
  obtain ⟨c, hc⟩ := h.exists_content
  have hcontent := hc
  rw [result_content hr] at hcontent
  have hshape := Content.ofRecords_of_ofRecord hcontent hkeys
  generalize htype : e.type = t at hshape
  constructor
  · intro theme
    rw [result_preview hc]
    cases hshape with
    | list l => exact ⟨_, rfl⟩
    | dropdown d => exact ⟨_, rfl⟩
    | grid g => exact ⟨_, rfl⟩
  · intro hlist index
    rw [← htype] at hlist
    rw [result_elementWidget hc]
    cases hshape with
    | list l => exact absurd htype hlist
    | dropdown d => exact ⟨_, rfl⟩
    | grid g => exact ⟨_, rfl⟩

/-- An element with a text that is not readable has neither a preview nor a widget. -/
theorem failures_of_not_readable {r : Record} (hr : e.record.result = .ok r) {key : String}
    (hkey : key ∈ e.type.keysOf .structured) (hunreadable : ¬ Readable (r.text key))
    (theme : Theme) (index : Int) :
    ∃ count, Numeral.maxDigits < count ∧
      (e.preview theme).result = .error (.unreadable (.tooManyDigits count)) ∧
      (Dart.elementWidget index e).result = .error (.unreadable (.tooManyDigits count)) := by
  cases hcontent : e.content.result with
  | ok c =>
      rw [result_content hr] at hcontent
      exact absurd ((Content.exists_ofRecord_iff e.type r).mp ⟨c, hcontent⟩ key hkey) hunreadable
  | error f =>
      have hf := hcontent
      rw [result_content hr] at hf
      obtain ⟨count, hmany, rfl⟩ := Content.ofRecord_eq_error hf
      exact ⟨count, hmany, result_of_error hcontent theme index⟩

end Element

/-! ## Every text -/

open Structured in
/-- Every reader of a text ends with well-formed records, with exactly its example, or at a
whole number with too many digits, and the last happens only in a text with more than 4300
digits in a row.  So no element fails in a preview or in a program because of a structured
text, unless the text has such a number. -/
theorem Structured.reads_or_replaces (s t : String) :
    (Readable s →
      (∃ choices, (readChoices (.text s)).result = .ok choices) ∧
      (∃ columns, (readColumns (.text s)).result = .ok columns) ∧
      (∃ rows, (readRows (.text s)).result = .ok rows) ∧
      (∃ items, (readItems (.text s)).result = .ok items) ∧
      (Readable t → ∃ table, (readTable (.text s) (.text t)).result = .ok table)) ∧
    (Outcome (List.mapM choice?) exampleChoices s (readChoices (.text s)).result ∧
      Outcome (List.mapM column?) exampleColumns s (readColumns (.text s)).result ∧
      Outcome some exampleRows s (readRows (.text s)).result ∧
      Outcome (fun records => some (records.mapIdx item)) exampleItems s
        (readItems (.text s)).result ∧
      TableOutcome s t (readTable (.text s) (.text t)).result) ∧
    ((∀ columns, (readColumns (.text s)).result = .ok columns → ∀ c ∈ columns, c.id ≠ "") ∧
      (∀ items, (readItems (.text s)).result = .ok items → ∀ i ∈ items, i.title ≠ "") ∧
      ∀ table, (readTable (.text s) (.text t)).result = .ok table →
        ∀ c ∈ table.columns, c.id ≠ "") ∧
    (¬ Readable s → ∃ count, Numeral.maxDigits < count ∧ Json.HasDigits count s.toList) ∧
    ∀ e : Element,
      (e.Legible →
        (∀ theme f, (e.preview theme).result = .error f → f = .tooLongToWrite) ∧
        (∀ index f, (Dart.elementWidget index e).result = .error f → f = .tooLarge) ∧
        (e.type.keysOf .structured ≠ [] →
          (∀ theme, ∃ node, (e.preview theme).result = .ok node) ∧
          (e.type ≠ .list → ∀ index, ∃ l, (Dart.elementWidget index e).result = .ok l))) ∧
      ∀ r, e.record.result = .ok r → ∀ key ∈ e.type.keysOf .structured, ¬ Readable (r.text key) →
        ∀ theme index, ∃ count, Numeral.maxDigits < count ∧
          (e.preview theme).result = .error (.unreadable (.tooManyDigits count)) ∧
          (Dart.elementWidget index e).result = .error (.unreadable (.tooManyDigits count)) := by
  have hchoices := outcome_readChoices s
  have hcolumns := outcome_readColumns s
  have hrows := outcome_readRows s
  have hitems := outcome_readItems s
  have htable := outcome_readTable s t
  refine ⟨fun hs => ?_, ⟨hchoices, hcolumns, hrows, hitems, htable⟩, ?_, fun hs => ?_, fun e => ?_⟩
  · exact ⟨hchoices.exists_ok_iff.mpr hs, hcolumns.exists_ok_iff.mpr hs,
      hrows.exists_ok_iff.mpr hs, hitems.exists_ok_iff.mpr hs,
      fun ht => htable.exists_ok_iff.mpr ⟨hs, ht⟩⟩
  · exact ⟨fun _ h => id_ne_empty_of_readColumns h, fun _ h => title_ne_empty_of_readItems h,
      fun _ h => id_ne_empty_of_readTable h⟩
  · obtain ⟨count, hcount⟩ := not_forall_not.mp hs
    exact ⟨count, Json.hasDigits_of_parse hcount⟩
  · refine ⟨fun he => ⟨he.failures.1, he.failures.2, he.exists_drawing⟩, ?_⟩
    exact fun r hr key hkey hunreadable => Element.failures_of_not_readable hr hkey hunreadable

/-- A dropdown with a broken text in the place of its choices. -/
def brokenDropdown : Element :=
  ⟨"d", .dropdown, 0, 0, 200, 70, [("options", .text "[\x7b\x22label\x22: 12345678901234567890]")]⟩

theorem Structured.reads_or_replaces_broken :
    (∃ table, (readTable (.text "[1, 2") (.text "[\x7b\x22name\x22: null\x7d]")).result = .ok table) ∧
      brokenDropdown.Legible ∧ ∀ theme, ∃ node, (brokenDropdown.preview theme).result = .ok node := by
  have hcolumns : Readable "[1, 2" := by decide +kernel
  have hrows : Readable "[\x7b\x22name\x22: null\x7d]" := by decide +kernel
  have hlegible : brokenDropdown.Legible := by decide +kernel
  have h := reads_or_replaces "[1, 2" "[\x7b\x22name\x22: null\x7d]"
  exact ⟨(h.1 hcolumns).2.2.2.2 hrows, hlegible,
    (((h.2.2.2.2 brokenDropdown).1 hlegible).2.2 (by decide +kernel)).1⟩

/-- A text of 4301 digits is no list of records, but it is not replaced either. -/
theorem Structured.not_replaced_of_many_digits :
    (readChoices (.text (String.ofList (List.replicate 4301 '1')))).result =
      .error (.unreadable (.tooManyDigits 4301)) := by
  have hdigits : ∀ c ∈ List.replicate 4300 '1', c.isDigit = true := fun c hc => by
    rw [List.eq_of_mem_replicate hc]
    rfl
  have hlength : (List.replicate 4300 '1').length = 4300 := List.length_replicate
  have hparse := Json.parse_digits hdigits (by rw [hlength]; decide)
  rw [hlength, ← List.replicate_succ] at hparse
  generalize String.ofList (List.replicate (4300 + 1) '1') = s at *
  have hchoices : choices? (.text s) = .error (.unreadable (.tooManyDigits 4301)) := by
    rw [choices?, records?, hparse]
    rfl
  rw [readChoices, hchoices]
  rfl

end ScreenDesign
