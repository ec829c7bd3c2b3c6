import Mathlib.Data.List.TakeWhile
import ScreenDesign.Dart.App
import ScreenDesign.Preview.Canvas
import ScreenDesign.Proofs.Results
import ScreenDesign.Proofs.TypedView

/-!
# Writing another color into a record

The bag of a record is read back as the record (`Record.WellTyped.read_toBag`).  So the
text of a field can be replaced in the bag of an element, and what the element shows
depends on the text of a color only through the color it stands for
(`Content.ofRecord_withText`).
-/

namespace ScreenDesign

/-! ## Color fields -/

namespace ComponentType

/-- The fields of a type that are edited as colors. -/
def colorFields (t : ComponentType) : List Field :=
  t.fields.filter fun f => t.editors.any fun e => e.key = f.key && e.kind = .color

/-- The keys of the fields that are edited as colors. -/
def colorKeys (t : ComponentType) : List String := t.colorFields.map Field.key

end ComponentType

/-! ## Bags of records -/

namespace Record

variable {t : ComponentType} {r : Record}

/-- No member beside the fields has the key of a field. -/
def Apart (t : ComponentType) (r : Record) : Prop := ∀ m ∈ r.extras, m.1 ∉ t.keys

theorem extras_of_read {bag : Bag} (h : read t bag = .ok r) :
    r.extras = bag.filter fun m =>
      !(t.fields.filterMap fun f => (f.given? bag).map Prod.fst).contains m.1 := by
  obtain ⟨entries, -, rfl⟩ := map_eq_ok.mp h
  rfl

theorem apart_of_read {bag : Bag} (h : read t bag = .ok r) : r.Apart t := by
  intro m hm hkey
  rw [extras_of_read h, List.mem_filter] at hm
  obtain ⟨hmem, huntaken⟩ := hm
  obtain ⟨f, hf, hkey⟩ := List.mem_map.mp hkey
  obtain ⟨j, hj⟩ := Entries.exists_get?_of_mem_keys (Entries.key_mem_keys hmem)
  have hgiven : f.given? bag = some (m.1, j) := by
    rw [Field.given?, hkey, hj]
  have htaken : m.1 ∈ t.fields.filterMap fun f => (f.given? bag).map Prod.fst :=
    List.mem_filterMap.mpr ⟨f, hf, by rw [hgiven]; rfl⟩
  simp [htaken] at huntaken

namespace WellTyped

variable (h : r.WellTyped t)

include h

theorem keys_front : Entries.keys (r.entries.map fun e => (e.1.key, e.2.toJson)) = t.keys := by
  rw [ComponentType.keys, ← h.fields, Entries.keys, List.map_map, List.map_map]
  rfl

/-- Every field of a record is given in its bag. -/
theorem given?_toBag {e : Field × FieldValue} (he : e ∈ r.entries) :
    e.1.given? r.toBag = some (e.1.key, e.2.toJson) := by
  have hnodup : (Entries.keys (r.entries.map fun e => (e.1.key, e.2.toJson))).Nodup := by
    rw [h.keys_front]
    exact t.keys_nodup
  have hmem : (e.1.key, e.2.toJson) ∈ r.entries.map fun e => (e.1.key, e.2.toJson) :=
    List.mem_map.mpr ⟨e, he, rfl⟩
  have hfront : r.toBag.get? e.1.key = some e.2.toJson := by
    rw [toBag, Entries.get?_append, Entries.get?_of_mem hnodup hmem]
    rfl
  rw [Field.given?, hfront]

/-- The bag of a record is read back as the record. -/
theorem read_toBag (hapart : r.Apart t) : read t r.toBag = .ok r := by
  have hread : ∀ e ∈ r.entries, e.1.read r.toBag = .ok e.2 := by
    intro e he
    rw [Field.read, h.given?_toBag he]
    exact Checked.below_eq_ok_iff.mpr (FieldValue.read_toJson (h.holds e he))
  have hall : Checked.all (t.fields.map fun f => (f.read r.toBag).map fun v => (f, v)) =
      .ok r.entries := by
    rw [Checked.all_eq_ok_iff, ← h.fields, List.map_map]
    refine List.map_congr_left fun e he => ?_
    rw [Function.comp, hread e he]
    rfl
  have htaken : (t.fields.filterMap fun f => (f.given? r.toBag).map Prod.fst) = t.keys := by
    rw [← h.fields, List.filterMap_map, ComponentType.keys, ← h.fields, List.map_map]
    refine (List.filterMap_congr fun e he => ?_).trans (congrFun List.filterMap_eq_map _)
    rw [Function.comp, h.given?_toBag he]
    rfl
  have hextras : (r.toBag.filter fun m => !t.keys.contains m.1) = r.extras := by
    rw [toBag, List.filter_append, List.filter_eq_nil_iff.mpr, List.filter_eq_self.mpr,
      List.nil_append]
    · intro m hm
      simpa using hapart m hm
    · intro m hm
      have hkey := Entries.key_mem_keys hm
      rw [h.keys_front] at hkey
      simpa using hkey
  rw [read, hall, htaken, hextras]
  rfl

end WellTyped

/-! ## Another text in a field -/

/-- The record with a text in the place of the value of a key. -/
def withText (r : Record) (key s : String) : Record :=
  ⟨r.entries.map fun e => (e.1, if e.1.key = key then .text s else e.2), r.extras⟩

theorem WellTyped.withText (h : r.WellTyped t) {f : Field} (hf : f ∈ t.fields)
    (hkind : f.kind = .text) (s : String) : (r.withText f.key s).WellTyped t where
  fields := by
    rw [Record.withText, List.map_map, ← h.fields]
    rfl
  holds := by
    intro entry hentry
    obtain ⟨e, he, rfl⟩ := List.mem_map.mp hentry
    by_cases hkey : e.1.key = f.key
    · have hfield : e.1 ∈ t.fields := h.fields ▸ List.mem_map_of_mem he
      have hkinds := (t.kind?_key hfield).symm.trans (hkey ▸ t.kind?_key hf)
      have hkind : e.1.kind = .text := (Option.some.inj hkinds).trans hkind
      rw [if_pos hkey, hkind]
      rfl
    · rw [if_neg hkey]
      exact h.holds e he

/-- The entry of a key in the record with another text. -/
theorem find?_withText (key s k : String) :
    ((r.withText key s).entries.find? fun e => e.1.key = k) =
      (r.entries.find? fun e => e.1.key = k).map fun e =>
        (e.1, if e.1.key = key then .text s else e.2) :=
  List.find?_map

/-- Two records that differ in the texts of colors only, and not in the colors. -/
structure SameColors (t : ComponentType) (r r' : Record) : Prop where
  value? : ∀ key ∉ t.colorKeys, r'.value? key = r.value? key
  color : ∀ key, r'.color key = r.color key
  extras : r'.extras = r.extras

/-- Another text for the same color. -/
theorem sameColors_withText {key s : String} (hkey : key ∈ t.colorKeys)
    (h : ∀ e ∈ r.entries, e.1.key = key → colorOf e.1 (.text s) = colorOf e.1 e.2) :
    SameColors t r (r.withText key s) where
  value? := by
    intro k hk
    rw [Record.value?, Record.value?, find?_withText, Option.map_map]
    cases hfind : r.entries.find? fun e => e.1.key = k with
    | none => rfl
    | some e =>
        have hother : e.1.key ≠ key := by
          have : e.1.key = k := by simpa using List.find?_some hfind
          rintro rfl
          exact hk (this ▸ hkey)
        simp [hother]
  color := by
    intro k
    rw [Record.color, Record.color, find?_withText, Option.map_map]
    cases hfind : r.entries.find? fun e => e.1.key = k with
    | none => rfl
    | some e =>
        by_cases hsame : e.1.key = key
        · simp [hsame, h e (List.mem_of_find?_eq_some hfind) hsame]
        · simp [hsame]
  extras := rfl

namespace SameColors

variable {r' : Record} (h : SameColors t r r') {key : String} (hkey : key ∉ t.colorKeys)

include h hkey

theorem text : r'.text key = r.text key := by rw [Record.text, Record.text, h.value? key hkey]

theorem number : r'.number key = r.number key := by
  rw [Record.number, Record.number, h.value? key hkey]

theorem flag : r'.flag key = r.flag key := by rw [Record.flag, Record.flag, h.value? key hkey]

theorem isSet : r'.isSet key = r.isSet key := by
  rw [Record.isSet, Record.isSet, h.value? key hkey, h.extras]

end SameColors

end Record

open Content in
/-- What a record shows depends on the texts of colors only through the colors. -/
theorem Record.SameColors.ofRecord_eq {t : ComponentType} {r r' : Record} (h : SameColors t r r') :
    Content.ofRecord t r' = Content.ofRecord t r := by
  cases t <;>
    simp (disch := decide +kernel) only [ofRecord, h.text, h.number, h.flag, h.isSet, h.color, buttonOf,
      textFieldOf, cardOf, glyphOf, containerOf, flexOf, stackOf, composerOf, messageOf, inputOf,
      listingOf, dropdownOf, gridOf, readChoices, labeledOf, choosableOf, toggleOf, checkboxOf,
      radioOf]

/-! ## Colors that texts stand for -/

namespace Text

theorem trimBy_eq_nil_iff {p : Char → Bool} {cs : List Char} :
    trimBy p cs = [] ↔ ∀ c ∈ cs, p c = true := by
  rw [trimBy, List.reverse_eq_nil_iff, List.dropWhile_eq_nil_iff]
  constructor
  · intro h
    cases hrest : cs.dropWhile p with
    | nil => exact List.dropWhile_eq_nil_iff.mp hrest
    | cons c rest =>
        have hkept : p c = false := by
          have := List.head_dropWhile_not p (l := cs) (by simp [hrest])
          simpa [hrest] using this
        have hdropped := h c (by simp [hrest])
        rw [hkept] at hdropped
        cases hdropped
  · intro h c hc
    exact h c ((List.dropWhile_suffix p).subset (List.mem_reverse.mp hc))

end Text

namespace Field

/-- A color field is a field of the type, and its default is a text. -/
theorem of_mem_colorFields {t : ComponentType} {f : Field} (h : f ∈ t.colorFields) :
    f ∈ t.fields ∧ f.kind = .text ∧ ∃ s, f.default = .text s := by
  have hfield : f ∈ t.fields := List.mem_of_mem_filter h
  have hkind : f.kind = .text := by
    have hall : ∀ g ∈ t.colorFields, g.kind = .text := by
      cases t <;> decide
    exact hall f h
  refine ⟨hfield, hkind, ?_⟩
  have hholds := t.holds_default f hfield
  rw [hkind] at hholds
  cases hdefault : f.default with
  | text s => exact ⟨s, rfl⟩
  | number n => rw [hdefault] at hholds; cases hholds
  | flag b => rw [hdefault] at hholds; cases hholds

variable {f : Field} {s : String}

/-- A blank color stands for the default of its field. -/
theorem colorOf_blank {d : String} (hdefault : f.default = .text d)
    (h : ∀ c ∈ s.toList, Text.isBlank c = true) :
    Record.colorOf f (.text d) = Record.colorOf f (.text s) := by
  have hblank : (Text.trimBy Text.isBlank s.toList).isEmpty = true :=
    List.isEmpty_iff.mpr (Text.trimBy_eq_nil_iff.mpr h)
  have hcolor : Color.ofText d = (Color.ofJson? f.default.toJson).getD .black := by
    rw [hdefault]
    rfl
  rw [Record.colorOf, Record.colorOf, FieldValue.toJson, FieldValue.toJson, Color.ofProperty,
    Color.ofProperty, if_pos hblank, ← hcolor, ite_self]

/-- A malformed color is black. -/
theorem colorOf_malformed (hblank : ¬ ∀ c ∈ s.toList, Text.isBlank c = true)
    (h : Color.ofText? s = none) :
    Record.colorOf f (.text "#000000") = Record.colorOf f (.text s) := by
  have hnonempty : ¬ (Text.trimBy Text.isBlank s.toList).isEmpty = true :=
    fun hempty => hblank (Text.trimBy_eq_nil_iff.mp (List.isEmpty_iff.mp hempty))
  have hblack : Color.ofProperty ((Color.ofJson? f.default.toJson).getD .black) (.text "#000000") =
      .black := rfl
  rw [Record.colorOf, FieldValue.toJson, hblack, Record.colorOf, FieldValue.toJson,
    Color.ofProperty, if_neg hnonempty, Color.ofText, h, Option.getD_none]

end Field

/-! ## Elements -/

namespace Element

/-- The element with the bag of its record and another text in a field. -/
def withText (e : Element) (r : Record) (key s : String) : Element :=
  { e with properties := (r.withText key s).toBag }

variable {e : Element} {r : Record} {f : Field} {s d : String}

/-- The bag of the record of an element, with a color written in another way, is read
as a record with the same colors. -/
theorem record_withText (hr : e.record.result = .ok r) (hf : f ∈ e.type.colorFields)
    (hs : (f, .text s) ∈ r.entries)
    (hcolor : Record.colorOf f (.text d) = Record.colorOf f (.text s)) :
    (e.withText r f.key d).record.result = .ok (r.withText f.key d) ∧
      Record.SameColors e.type r (r.withText f.key d) := by
  obtain ⟨bag, hread⟩ := exists_read_of_record hr
  obtain ⟨hfield, hkind, -⟩ := Field.of_mem_colorFields hf
  have htyped := Record.wellTyped_of_read hread
  constructor
  · have hapart : (r.withText f.key d).Apart e.type := Record.apart_of_read (r := r) hread
    have hbag := (htyped.withText hfield hkind d).read_toBag hapart
    rw [record_of_read (e := e.withText r f.key d) hbag]
    rfl
  · refine Record.sameColors_withText (List.mem_map_of_mem hf) fun entry hentry hkey => ?_
    have hkeys : (r.entries.map fun e => e.1.key).Nodup := by
      have := e.type.keys_nodup
      rwa [ComponentType.keys, ← htyped.fields, List.map_map] at this
    obtain rfl := List.inj_on_of_nodup_map hkeys hentry hs hkey
    exact hcolor

/-- What an element shows stays the same if a color is written in another way. -/
theorem same_withText (hr : e.record.result = .ok r) (hf : f ∈ e.type.colorFields)
    (hs : (f, .text s) ∈ r.entries)
    (hcolor : Record.colorOf f (.text d) = Record.colorOf f (.text s)) (theme : Theme)
    (index : Int) :
    ((e.withText r f.key d).preview theme).result = (e.preview theme).result ∧
      (Dart.elementWidget index (e.withText r f.key d)).result =
        (Dart.elementWidget index e).result := by
  obtain ⟨hrecord, hsame⟩ := record_withText hr hf hs hcolor
  have hcontent := hsame.ofRecord_eq
  have hchoices : Content.readChoices (r.withText f.key d) = Content.readChoices r := by
    rw [Content.readChoices, hsame.text (by cases e.type <;> decide), Content.readChoices]
  constructor
  · simp only [preview, content, Logged.result_bind, hr, hrecord]
    exact congrArg (fun c => c.result >>= fun c => (Logged.ofExcept (Paint.content theme c)).result)
      hcontent
  · simp only [Dart.elementWidget, Logged.result_bind, hr, hrecord]
    exact congrArg₂ (fun c choices => c.result >>= fun c =>
      (if Dart.looksUpSelection c then
        choices >>= fun _ => Logged.ofExcept (Dart.widget index c)
      else Logged.ofExcept (Dart.widget index c)).result) hcontent hchoices

end Element

end ScreenDesign
