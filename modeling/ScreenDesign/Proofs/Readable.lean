import ScreenDesign.Dart.App
import ScreenDesign.Preview.Canvas
import ScreenDesign.Proofs.Structured
import ScreenDesign.Proofs.TypedView

/-!
# Elements with readable texts

An element shows something exactly if the structured texts of its record are readable
(`Content.exists_ofRecord_iff`).  Those texts are the ones given in its bag, or defaults
(`Element.Legible.readable_text`).  The preview and the widget of an element are then those of
what it shows, so reading makes neither of them fail (`Element.result_preview`,
`Element.result_elementWidget`).
-/

namespace ScreenDesign

open Json (Readable)

/-! ## Fields of a kind -/

namespace ComponentType

/-- The keys of the fields of a kind. -/
def keysOf (t : ComponentType) (kind : FieldKind) : List String :=
  (t.fields.filter fun f => f.kind = kind).map Field.key

theorem mem_keysOf {t : ComponentType} {kind : FieldKind} {key : String} :
    key ∈ t.keysOf kind ↔ ∃ f ∈ t.fields, f.kind = kind ∧ f.key = key := by
  simp [keysOf, and_assoc]

theorem keysOf_structured (t : ComponentType) :
    t.keysOf .structured =
      if t = .list then ["data"]
      else if t = .dropdown then ["options"]
      else if t = .dynamicTable then ["columns", "data"]
      else [] := by
  cases t <;> decide

/-- A structured field has one name, and its default is a short text. -/
theorem structured_default (t : ComponentType) : ∀ f ∈ t.fields, f.kind = .structured →
    f.name = f.key ∧ ∃ j : Json, f.default = .text j.compact ∧
      (Json.compactChars j).length ≤ Numeral.maxDigits := by
  cases t with
  | list =>
      simp only [fields, listFields, Field.text, Field.number, Field.flag, Field.structured,
        List.forall_mem_cons, reduceCtorEq, false_implies, true_implies, true_and]
      exact ⟨⟨_, rfl, by decide +kernel⟩, List.forall_mem_nil _⟩
  | dropdown =>
      simp only [fields, dropdownFields, Field.text, Field.flag, Field.structured,
        List.forall_mem_cons, reduceCtorEq, false_implies, true_implies, true_and]
      exact ⟨⟨_, rfl, by decide +kernel⟩, List.forall_mem_nil _⟩
  | dynamicTable =>
      simp only [fields, dynamicTableFields, Field.text, Field.flag, Field.structured,
        List.forall_mem_cons, reduceCtorEq, false_implies, true_implies, true_and]
      exact ⟨⟨_, rfl, by decide +kernel⟩, ⟨_, rfl, by decide +kernel⟩, List.forall_mem_nil _⟩
  | _ =>
      intro f hf hkind
      have hkey := mem_keysOf.mpr ⟨f, hf, hkind, rfl⟩
      rw [keysOf_structured] at hkey
      cases hkey

end ComponentType

theorem FieldValue.eq_text_of_toJson {v : FieldValue} {s : String} (h : v.toJson = .text s) :
    v = .text s := by
  cases v with
  | text s' => rw [Json.text.inj h]
  | number n => cases h
  | flag b => cases h

/-! ## Texts of a record -/

namespace Record

variable {t : ComponentType} {bag : Bag} {r : Record} {f : Field}

/-- A record that was read holds the value of each field in the bag. -/
theorem value?_of_read (h : read t bag = .ok r) (hf : f ∈ t.fields) :
    r.value? f.key = some (f.valueIn bag) := by
  have hfound : (t.fields.find? fun g => g.key = f.key) = some f := ComponentType.field?_key hf
  have hcompose : (fun e : Field × FieldValue => decide (e.1.key = f.key)) ∘
      (fun g => (g, g.valueIn bag)) = fun g => decide (g.key = f.key) := rfl
  rw [value?, (entries_of_read h).2, List.find?_map, hcompose, hfound]
  rfl

/-- A structured text was given in the bag, or it is a default. -/
theorem text_of_read (h : read t bag = .ok r) (hf : f ∈ t.fields) (hkind : f.kind = .structured) :
    (f.key, .text (r.text f.key)) ∈ bag ∨ f.default = .text (r.text f.key) := by
  have hread := (entries_of_read h).1 f hf
  have hname := (t.structured_default f hf hkind).1
  rw [text, value?_of_read h hf]
  rw [Field.read, Field.given?, hname] at hread
  cases hget : bag.get? f.key with
  | some j =>
      simp only [hget] at hread
      have hvalue := Checked.below_eq_ok_iff.mp hread
      rw [hkind, FieldValue.read] at hvalue
      obtain ⟨s, hs⟩ := FieldValue.holds_of_readText hvalue
      rw [hs] at hvalue ⊢
      cases j with
      | text s' =>
          cases hvalue
          exact .inl (Entries.mem_of_get? hget)
      | _ => cases hvalue
  | none =>
      simp only [hget, Option.map_none] at hread
      obtain ⟨j, hj, -⟩ := (t.structured_default f hf hkind).2
      rw [← Except.ok.inj hread, hj]
      exact .inr rfl

end Record

/-- What a coerced bag holds is a default or was given. -/
theorem ComponentType.mem_coerce {t : ComponentType} {bag : Bag} {m : String × Json}
    (h : m ∈ t.coerce (.object bag)) :
    m ∈ t.defaults ∨ ∃ j, (m.1, j) ∈ bag ∧ t.judge m.1 j = .keep m.2 := by
  have hfold (members start : Bag) (hm : m ∈ members.foldl t.mergeMember start) :
      m ∈ start ∨ ∃ j, (m.1, j) ∈ members ∧ t.judge m.1 j = .keep m.2 := by
    induction members generalizing start with
    | nil => exact .inl hm
    | cons member members ih =>
        rcases ih _ hm with hstart | ⟨j, hj, hjudge⟩
        · rw [mergeMember] at hstart
          split at hstart
          case h_1 value hvalue =>
            rcases Entries.mem_insert hstart with rfl | hold
            · exact .inr ⟨member.2, List.mem_cons_self, hvalue⟩
            · exact .inl hold
          case h_2 => exact .inl hstart
        · exact .inr ⟨j, List.mem_cons_of_mem _ hj, hjudge⟩
  exact hfold bag t.defaults h

/-- A value that is kept under the key of a structured field is the structured text of the
given one. -/
theorem ComponentType.taken_of_judge {t : ComponentType} {f : Field} (hf : f ∈ t.fields)
    (hkind : f.kind = .structured) {j : Json} {s : String}
    (h : t.judge f.key j = .keep (.text s)) : j.toStructured? = some s := by
  have hfound := kind?_key hf
  rcases judge_eq_keep h with ⟨hnone, -, -⟩ | ⟨kind, v, hkind', htake, hv⟩
  · rw [hfound] at hnone
    cases hnone
  · rw [hfound, hkind] at hkind'
    cases hkind'
    obtain ⟨s', hs', rfl⟩ := Option.map_eq_some_iff.mp htake
    rw [hs', Json.text.inj hv]

/-- The default of a structured field is readable. -/
theorem ComponentType.readable_default {t : ComponentType} {f : Field} (hf : f ∈ t.fields)
    (hkind : f.kind = .structured) {s : String} (h : f.default = .text s) : Readable s := by
  obtain ⟨-, j, hj, hlength⟩ := t.structured_default f hf hkind
  obtain rfl := FieldValue.text.inj (hj.symm.trans h)
  refine Json.readable_of_length_le ?_
  rw [Json.compact, String.toList_ofList]
  exact hlength

namespace Element

variable {e : Element} {r : Record}

/-- The texts that a bag gives to the structured fields are readable. -/
def Legible (e : Element) : Prop :=
  ∀ m ∈ e.properties, m.1 ∈ e.type.keysOf .structured → ∀ s ∈ m.2.toStructured?, Readable s

instance : DecidablePred Legible := fun e =>
  inferInstanceAs (Decidable (∀ m ∈ e.properties, _))

/-- The structured texts of a record are readable if those in the bag are. -/
theorem Legible.readable_text (h : e.Legible) (hr : e.record.result = .ok r) {key : String}
    (hkey : key ∈ e.type.keysOf .structured) : Readable (r.text key) := by
  obtain ⟨f, hf, hkind, rfl⟩ := ComponentType.mem_keysOf.mp hkey
  rcases read_of_record hr with hread | hread
  · rcases Record.text_of_read hread hf hkind with hmem | hdefault
    · exact h _ hmem hkey _ rfl
    · exact ComponentType.readable_default hf hkind hdefault
  · rcases Record.text_of_read hread hf hkind with hmem | hdefault
    · rcases ComponentType.mem_coerce hmem with hdefault | ⟨j, hj, hjudge⟩
      · obtain ⟨g, hg, hsame⟩ := List.mem_map.mp hdefault
        obtain ⟨hkeys, hvalue⟩ := Prod.mk.inj hsame
        obtain rfl := List.inj_on_of_nodup_map e.type.keys_nodup hg hf hkeys
        exact ComponentType.readable_default hf hkind (FieldValue.eq_text_of_toJson hvalue)
      · exact h _ hj hkey _ (ComponentType.taken_of_judge hf hkind hjudge)
    · exact ComponentType.readable_default hf hkind hdefault

end Element

/-! ## Content -/

/-- What is made of a result is a result exactly if there was one. -/
theorem Logged.exists_ok_bind_pure {α β : Type} {x : Logged α} {f : α → β} :
    (∃ b, (x >>= fun a => pure (f a)).result = .ok b) ↔ ∃ a, x.result = .ok a := by
  rw [result_bind]
  constructor
  · rintro ⟨b, hb⟩
    obtain ⟨a, ha, -⟩ := bind_eq_ok.mp hb
    exact ⟨a, ha⟩
  · rintro ⟨a, ha⟩
    exact ⟨f a, bind_eq_ok.mpr ⟨a, ha, rfl⟩⟩

theorem Logged.error_of_bind_pure {α β : Type} {x : Logged α} {g : α → β} {f : Failure}
    (h : (x >>= fun a => pure (g a)).result = .error f) : x.result = .error f := by
  rw [result_bind] at h
  cases hx : x.result with
  | error e => rw [hx] at h; cases h; rfl
  | ok a => rw [hx] at h; cases h

namespace Content

/-- Exactly a record with readable structured texts has content. -/
theorem exists_ofRecord_iff (t : ComponentType) (r : Record) :
    (∃ c, (ofRecord t r).result = .ok c) ↔ ∀ key ∈ t.keysOf .structured, Readable (r.text key) := by
  have hkeys := t.keysOf_structured
  cases t with
  | list =>
      have hitems := (Structured.outcome_readItems (r.text "data")).exists_ok_iff
      rw [hkeys, if_pos rfl, List.forall_mem_singleton]
      exact Logged.exists_ok_bind_pure.trans hitems
  | dropdown =>
      have hchoices := (Structured.outcome_readChoices (r.text "options")).exists_ok_iff
      rw [hkeys, if_neg nofun, if_pos rfl, List.forall_mem_singleton]
      exact Logged.exists_ok_bind_pure.trans hchoices
  | dynamicTable =>
      have htable := (Structured.outcome_readTable (r.text "columns") (r.text "data")).exists_ok_iff
      rw [hkeys, if_neg nofun, if_neg nofun, if_pos rfl, List.forall_mem_cons,
        List.forall_mem_singleton]
      exact Logged.exists_ok_bind_pure.trans htable
  | _ =>
      rw [hkeys]
      exact ⟨fun _ => nofun, fun _ => ⟨_, rfl⟩⟩

/-- Without content, a structured text has a number with too many digits. -/
theorem ofRecord_eq_error {t : ComponentType} {r : Record} {f : Failure}
    (h : (ofRecord t r).result = .error f) :
    ∃ count, Numeral.maxDigits < count ∧ f = .unreadable (.tooManyDigits count) := by
  cases t with
  | list =>
      have houtcome := Structured.outcome_readItems (r.text "data")
      rw [Logged.error_of_bind_pure h] at houtcome
      exact houtcome.eq_error
  | dropdown =>
      have houtcome := Structured.outcome_readChoices (r.text "options")
      have hchoices : (Structured.readChoices (.text (r.text "options"))).result = .error f :=
        Logged.error_of_bind_pure h
      rw [hchoices] at houtcome
      exact houtcome.eq_error
  | dynamicTable =>
      have houtcome := Structured.outcome_readTable (r.text "columns") (r.text "data")
      rw [Logged.error_of_bind_pure h] at houtcome
      exact houtcome.eq_error
  | _ => cases h

/-- A dropdown that looks its selection up again can read its choices again. -/
theorem exists_readChoices {t : ComponentType} {r : Record} {c : Content}
    (h : (ofRecord t r).result = .ok c) (hlooks : Dart.looksUpSelection c = true) :
    ∃ choices, (readChoices r).result = .ok choices := by
  cases t with
  | dropdown => exact Logged.exists_ok_bind_pure.mp ⟨c, h⟩
  | list =>
      obtain ⟨items, -, hc⟩ := bind_eq_ok.mp ((Logged.result_bind _ _).symm.trans h)
      cases hc
      cases hlooks
  | dynamicTable =>
      obtain ⟨table, -, hc⟩ := bind_eq_ok.mp ((Logged.result_bind _ _).symm.trans h)
      cases hc
      cases hlooks
  | _ =>
      cases h
      cases hlooks

end Content

/-! ## Previews and widgets -/

namespace Element

variable {e : Element} {r : Record} {c : Content}

theorem result_content (hr : e.record.result = .ok r) :
    e.content.result = (Content.ofRecord e.type r).result := Logged.result_bind_of_ok hr _

/-- An element with readable texts shows something. -/
theorem Legible.exists_content (h : e.Legible) : ∃ c, e.content.result = .ok c := by
  obtain ⟨r, hr, -⟩ := e.exists_record
  rw [result_content hr, Content.exists_ofRecord_iff]
  exact fun key hkey => h.readable_text hr hkey

/-- The preview of an element is the preview of what it shows. -/
theorem result_preview (h : e.content.result = .ok c) (theme : Theme) :
    (e.preview theme).result = Paint.content theme c := Logged.result_bind_of_ok h _

/-- The widget of an element is the widget of what it shows. -/
theorem result_elementWidget (h : e.content.result = .ok c) (index : Int) :
    (Dart.elementWidget index e).result = Dart.widget index c := by
  obtain ⟨r, hr, -⟩ := e.exists_record
  rw [result_content hr] at h
  rw [Dart.elementWidget, Logged.result_bind_of_ok hr, Logged.result_bind_of_ok h]
  split
  case isTrue hlooks =>
    obtain ⟨choices, hchoices⟩ := Content.exists_readChoices h hlooks
    exact Logged.result_bind_of_ok hchoices _
  case isFalse => rfl

/-- An element whose texts cannot be read has neither a preview nor a widget. -/
theorem result_of_error {f : Failure} (h : e.content.result = .error f) (theme : Theme)
    (index : Int) :
    (e.preview theme).result = .error f ∧ (Dart.elementWidget index e).result = .error f := by
  obtain ⟨r, hr, -⟩ := e.exists_record
  constructor
  · rw [preview, Logged.result_bind, h]
    rfl
  · rw [result_content hr] at h
    rw [Dart.elementWidget, Logged.result_bind_of_ok hr, Logged.result_bind, h]
    rfl

end Element

end ScreenDesign
