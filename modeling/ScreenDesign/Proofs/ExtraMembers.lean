import ScreenDesign.Proofs.Readable
import ScreenDesign.Sanitize

/-!
# Members beside the fields

Two bags that hold the same under the keys of a type are read as records with the same fields,
whatever else they hold (`ComponentType.Settled.exists_read_of_keys`).  So all that the members
beside the fields can change is what is read beside the fields, and that is one thing: whether
a control is disabled.  A switch, a check box and a radio button have no field for it, and still
look for it (`ComponentType.looksBeside`).

For every other type, a sanitized element keeps its preview and its widget when members beside
its fields come, go or change.  For these three it keeps them if it is still disabled or still
not, and its preview tells the two apart (`Element.preview_eq_iff`).
-/

namespace ScreenDesign

/-! ## Reading beside the fields -/

theorem Entries.get?_filter {β : Type} {es : Entries β} {p : String × β → Bool} {key : String}
    (h : ∀ x, p (key, x) = true) : get? (es.filter p) key = get? es key := by
  induction es with
  | nil => rfl
  | cons q es ih =>
      obtain ⟨k, x⟩ := q
      by_cases hkey : k = key
      · subst hkey
        rw [List.filter_cons_of_pos (h x), get?, get?, if_pos rfl, if_pos rfl]
      · rw [get?, if_neg hkey, ← ih, List.filter_cons]
        split
        · rw [get?, if_neg hkey]
        · rfl

namespace ComponentType.Settled

variable {t : ComponentType} {bag other : Bag}

/-- A bag that holds what a settled one holds under the keys of the fields is read as a record
with the same fields.  The rest of the bag is beside them. -/
theorem exists_read_of_keys (h : t.Settled bag)
    (hkeys : ∀ key ∈ t.keys, Entries.get? other key = Entries.get? bag key) :
    ∃ r, Record.read t other = .ok r ∧
      r.entries = (t.fields.map fun f => (f, f.valueIn bag)) ∧
      ∀ key ∉ t.keys, Entries.get? r.extras key = Entries.get? other key := by
  have hgiven : ∀ f ∈ t.fields, f.given? other = some (f.key, (f.valueIn bag).toJson) := by
    intro f hf
    rw [Field.given?, hkeys f.key (List.mem_map_of_mem hf), (h.get?_key hf).1]
  have hread : ∀ f ∈ t.fields, f.read other = .ok (f.valueIn bag) := by
    intro f hf
    rw [Field.read, hgiven f hf]
    exact Checked.below_eq_ok_iff.mpr
      (FieldValue.read_toJson (Field.holds_of_read hf (h.get?_key hf).2))
  have hall : Checked.all (t.fields.map fun f => (f.read other).map fun v => (f, v)) =
      .ok (t.fields.map fun f => (f, f.valueIn bag)) := by
    rw [Checked.all_eq_ok_iff, List.map_map]
    apply List.map_congr_left
    intro f hf
    rw [hread f hf]
    rfl
  have htaken : (t.fields.filterMap fun f => (f.given? other).map Prod.fst) = t.keys := by
    have heach : ∀ f ∈ t.fields, (f.given? other).map Prod.fst = some f.key := by
      intro f hf
      rw [hgiven f hf]
      rfl
    exact (List.filterMap_congr heach).trans (congrFun List.filterMap_eq_map _)
  refine ⟨_, by simp only [Record.read, hall]; rfl, rfl, fun key hkey => ?_⟩
  apply Entries.get?_filter
  intro x
  rw [htaken]
  simpa using hkey

end ComponentType.Settled

/-! ## What a record shows -/

namespace ComponentType

/-- Whether components of a type look for a truth value beside their fields. -/
def looksBeside (t : ComponentType) : Bool := t ∈ [toggle, checkbox, radio]

theorem disabled_notMem {t : ComponentType} (h : t.looksBeside = true) : "disabled" ∉ t.keys := by
  revert h
  cases t <;> decide

end ComponentType

namespace Record

variable {r r' : Record} {key : String}

/-- A truth value in a field does not depend on what is beside the fields. -/
theorem isSet_congr (hentries : r'.entries = r.entries)
    (hkey : key ∈ r.entries.map fun e => e.1.key) :
    r'.isSet key = r.isSet key := by
  have hvalue : r'.value? key = r.value? key := by rw [value?, value?, hentries]
  obtain ⟨e, he, rfl⟩ := List.mem_map.mp hkey
  have hsome : (r.entries.find? fun e' => e'.1.key = e.1.key).isSome :=
    List.find?_isSome.mpr ⟨e, he, decide_eq_true rfl⟩
  obtain ⟨e', he'⟩ := Option.isSome_iff_exists.mp hsome
  rw [isSet, isSet, hvalue, value?, he']
  rfl

/-- A truth value beside the fields. -/
theorem isSet_extras (hkey : key ∉ r.entries.map fun e => e.1.key) :
    r.isSet key = ((Entries.get? r.extras key).getD .null).isTruthy := by
  have hnone : (r.entries.find? fun e => e.1.key = key) = none := by
    rw [List.find?_eq_none]
    intro e he hsame
    exact hkey (List.mem_map.mpr ⟨e, he, of_decide_eq_true hsame⟩)
  rw [isSet, value?, hnone]
  rfl

end Record

/-- What a record shows depends on what is beside its fields only in the truth value that its
type looks for there. -/
theorem Content.ofRecord_congr {t : ComponentType} {r r' : Record}
    (hfields : r.entries.map Prod.fst = t.fields) (hentries : r'.entries = r.entries)
    (hset : t.looksBeside = true → r'.isSet "disabled" = r.isSet "disabled") :
    Content.ofRecord t r' = Content.ofRecord t r := by
  have hfield : "disabled" ∈ t.keys → r'.isSet "disabled" = r.isSet "disabled" := by
    intro hkey
    apply Record.isSet_congr hentries
    rwa [ComponentType.keys, ← hfields, List.map_map] at hkey
  obtain ⟨entries, extras⟩ := r
  obtain ⟨entries', extras'⟩ := r'
  cases hentries
  cases t with
  | toggle => simp only [ofRecord, toggleOf, hset rfl]; rfl
  | checkbox => simp only [ofRecord, checkboxOf, hset rfl]; rfl
  | radio => simp only [ofRecord, radioOf, hset rfl]; rfl
  | toggleWithLabel =>
      simp only [ofRecord, toggleOf, hfield (by decide)]
      rfl
  | radioWithLabel =>
      simp only [ofRecord, radioOf, hfield (by decide)]
      rfl
  | checkboxWithLabel =>
      simp only [ofRecord, checkboxOf, hfield (by decide)]
      rfl
  | _ => rfl

/-! ## What a preview tells -/

/-- Whether a control is disabled. -/
def Control.isDisabled : Control → Bool
  | .toggle _ disabled _ _ => disabled
  | .checkbox _ disabled _ => disabled
  | .radio _ disabled _ _ => disabled

namespace Paint

theorem has_control_opacity (theme : Theme) (c : Control) :
    Entries.has (control theme c).style "opacity" = c.isDisabled := by
  cases c with
  | toggle on disabled active inactive => cases disabled <;> rfl
  | checkbox on disabled active => cases disabled <;> rfl
  | radio on disabled active group => cases disabled <;> rfl

/-- Whether the first child of a node is dimmed. -/
def leadsDimmed (n : Node) : Bool :=
  match n.children with
  | [] => false
  | child :: _ => Entries.has child.style "opacity"

/-- The preview of a control is dimmed exactly if a truth value is given for it. -/
theorem exists_content_leadsDimmed {t : ComponentType} (h : t.looksBeside = true) (theme : Theme)
    (r : Record) :
    ∃ n, (Content.ofRecord t r >>= fun c => Logged.ofExcept (content theme c)).result = .ok n ∧
      leadsDimmed n = r.isSet "disabled" := by
  cases t with
  | toggle => exact ⟨_, rfl, has_control_opacity theme (Content.toggleOf r)⟩
  | checkbox => exact ⟨_, rfl, has_control_opacity theme (Content.checkboxOf r)⟩
  | radio => exact ⟨_, rfl, has_control_opacity theme (Content.radioOf r)⟩
  | _ => cases h

end Paint

/-! ## Elements -/

namespace Element

/-- An element with another bag. -/
def withBag (e : Element) (bag : Bag) : Element := { e with properties := bag }

@[simp] theorem type_withBag (e : Element) (bag : Bag) : (e.withBag bag).type = e.type := rfl

/-- Whether the bag of an element gives a truth value that says that it is disabled. -/
def saysDisabled (e : Element) : Bool :=
  ((Entries.get? e.properties "disabled").getD .null).isTruthy

variable {e : Element} {bag : Bag}

/-- A bag that holds the same under the keys of the fields gives a record with the same fields.
Beside them, each record has what its bag says. -/
theorem exists_records (h : e.type.Settled e.properties)
    (hkeys : ∀ key ∈ e.type.keys, Entries.get? bag key = Entries.get? e.properties key) :
    ∃ r r', e.record = pure r ∧ (e.withBag bag).record = pure r' ∧
      r.entries.map Prod.fst = e.type.fields ∧ r'.entries = r.entries ∧
      (e.type.looksBeside = true → r.isSet "disabled" = e.saysDisabled ∧
        r'.isSet "disabled" = (e.withBag bag).saysDisabled) := by
  obtain ⟨r, hread, hentries, hextras⟩ := h.exists_read_of_keys fun _ _ => rfl
  obtain ⟨r', hread', hentries', hextras'⟩ := h.exists_read_of_keys hkeys
  have hrecord' := record_of_read (e := e.withBag bag) hread'
  have hsame : r'.entries = r.entries := hentries'.trans hentries.symm
  refine ⟨r, r', record_of_read hread, hrecord', ?_, hsame, fun hlooks => ?_⟩
  · rw [hentries, List.map_map]
    exact List.map_id _
  · have hnew := ComponentType.disabled_notMem hlooks
    have hkey : "disabled" ∉ r.entries.map fun e => e.1.key := by
      rwa [hentries, List.map_map]
    have hkey' : "disabled" ∉ r'.entries.map fun e => e.1.key := hsame ▸ hkey
    rw [Record.isSet_extras hkey, Record.isSet_extras hkey', hextras _ hnew, hextras' _ hnew]
    exact ⟨rfl, rfl⟩

/-- The preview of an element with a record is the picture of its content. -/
theorem preview_of_record {r : Record} (hr : e.record = pure r) (theme : Theme) :
    e.preview theme =
      Content.ofRecord e.type r >>= fun c => Logged.ofExcept (Paint.content theme c) := by
  rw [preview, content, hr, pure_bind]

/-- With the same under the keys of its fields, and disabled or not as before, an element has the
same preview and the same widget, with the same notices. -/
theorem preview_congr (h : e.type.Settled e.properties)
    (hkeys : ∀ key ∈ e.type.keys, Entries.get? bag key = Entries.get? e.properties key)
    (hset : e.type.looksBeside = true →
      (e.withBag bag).saysDisabled = e.saysDisabled) (theme : Theme) (index : Int) :
    (e.withBag bag).preview theme = e.preview theme ∧
      Dart.elementWidget index (e.withBag bag) = Dart.elementWidget index e := by
  obtain ⟨r, r', hr, hr', hfields, hentries, hnext⟩ := exists_records h hkeys
  have hcontent : Content.ofRecord e.type r' = Content.ofRecord e.type r := by
    refine Content.ofRecord_congr hfields hentries fun hlooks => ?_
    rw [(hnext hlooks).1, (hnext hlooks).2, hset hlooks]
  have hchoices : Content.readChoices r' = Content.readChoices r := by
    simp only [Content.readChoices, Record.text, Record.value?, hentries]
  constructor
  · rw [preview_of_record hr, preview_of_record hr', type_withBag, hcontent]
  · rw [Dart.elementWidget, Dart.elementWidget, hr, hr', pure_bind, pure_bind, type_withBag,
      hcontent, hchoices]

/-- With the same under the keys of its fields, an element has the same preview exactly if it is
disabled or not as before, or of a type that does not look for it beside its fields. -/
theorem result_preview_eq_iff (h : e.type.Settled e.properties)
    (hkeys : ∀ key ∈ e.type.keys, Entries.get? bag key = Entries.get? e.properties key)
    (theme : Theme) :
    ((e.withBag bag).preview theme).result = (e.preview theme).result ↔
      (e.type.looksBeside = true →
        (e.withBag bag).saysDisabled = e.saysDisabled) := by
  refine ⟨fun hsame hlooks => ?_, fun hset => by rw [(preview_congr h hkeys hset theme 0).1]⟩
  obtain ⟨r, r', hr, hr', -, -, hnext⟩ := exists_records h hkeys
  obtain ⟨n, hn, hdimmed⟩ := Paint.exists_content_leadsDimmed hlooks theme r
  obtain ⟨n', hn', hdimmed'⟩ := Paint.exists_content_leadsDimmed hlooks theme r'
  rw [preview_of_record hr, preview_of_record hr', type_withBag, hn, hn'] at hsame
  cases hsame
  rw [← (hnext hlooks).1, ← (hnext hlooks).2, ← hdimmed, ← hdimmed']

end Element

/-- What members beside the fields can change.  Let a sanitized element be given another bag that
holds the same under every key of its type.  If its type does not look beside its fields, or the
two bags agree on whether it is disabled, then it has the same preview in every theme and the same
widget with every index.  And it has the same preview only then. -/
theorem Sanitize.same_of_keys (raw : Json) (id : String) (bag : Bag)
    (hkeys : ∀ key ∈ (element raw id).type.keys,
      Entries.get? bag key = Entries.get? (element raw id).properties key) :
    ((element raw id).type ∉ [.toggle, .checkbox, .radio] ∨
        ((element raw id).withBag bag).saysDisabled = (element raw id).saysDisabled →
      (∀ theme, ((element raw id).withBag bag).preview theme = (element raw id).preview theme) ∧
      ∀ index, Dart.elementWidget index ((element raw id).withBag bag) =
        Dart.elementWidget index (element raw id)) ∧
    ∀ theme, (((element raw id).withBag bag).preview theme).result =
        ((element raw id).preview theme).result →
      (element raw id).type ∉ [.toggle, .checkbox, .radio] ∨
        ((element raw id).withBag bag).saysDisabled = (element raw id).saysDisabled := by
  have hsettled : (element raw id).type.Settled (element raw id).properties :=
    ComponentType.settled_coerce _ _
  have hlooks : (element raw id).type.looksBeside = true ↔
      ¬ (element raw id).type ∉ [.toggle, .checkbox, .radio] := by
    rw [not_not, ComponentType.looksBeside, decide_eq_true_eq]
  constructor
  · intro hset
    have hset := fun h => hset.resolve_left (hlooks.mp h)
    exact ⟨fun theme => (Element.preview_congr hsettled hkeys hset theme 0).1,
      fun index => (Element.preview_congr hsettled hkeys hset .light index).2⟩
  · intro theme hsame
    refine or_iff_not_imp_left.mpr fun hlisted => ?_
    exact (Element.result_preview_eq_iff hsettled hkeys theme).mp hsame (hlooks.mpr hlisted)

namespace Element

/-- The sanitized element of a type, with defaults throughout. -/
def sample (typeName : String) : Element :=
  Sanitize.element (.object [("type", .text typeName)]) "element-0"

/-- The bag of an element with more members behind it. -/
def bagWith (e : Element) (members : Bag) : Bag := e.properties ++ members

/-- A button does not change with a target under the second name or with a mark. -/
theorem button_same_with_members :
    (∀ theme, ((sample "button").withBag ((sample "button").bagWith
        [("navigate_to", .text "away"), ("disabled", .bool true)])).preview theme =
      (sample "button").preview theme) ∧
    ∀ index, Dart.elementWidget index ((sample "button").withBag ((sample "button").bagWith
        [("navigate_to", .text "away"), ("disabled", .bool true)])) =
      Dart.elementWidget index (sample "button") :=
  (Sanitize.same_of_keys (.object [("type", .text "button")]) "element-0"
    ((sample "button").bagWith [("navigate_to", .text "away"), ("disabled", .bool true)])
    (by decide)).1 (.inl (by decide))

/-- A switch changes with a member under a key that its type does not have. -/
theorem toggle_changes_with_member :
    (∀ key ∈ (sample "switch").type.keys,
      Entries.get? ((sample "switch").bagWith [("disabled", .bool true)]) key =
        Entries.get? (sample "switch").properties key) ∧
    "disabled" ∉ (sample "switch").type.keys ∧
    ((Dart.elementWidget 0 (sample "switch")).result.map (Dart.Layout.lines 0)).toOption =
      some ["Switch(", "  value: false,", "  activeColor: Color(0xFF2196F3),",
        "  inactiveTrackColor: Color(0xFF9E9E9E),", "  onChanged: (bool newValue) \x7b\x7d,", ")"] ∧
    ((Dart.elementWidget 0 ((sample "switch").withBag
        ((sample "switch").bagWith [("disabled", .bool true)]))).result.map
          (Dart.Layout.lines 0)).toOption =
      some ["Switch(", "  value: false,", "  activeColor: Color(0xFF2196F3),",
        "  inactiveTrackColor: Color(0xFF9E9E9E),", "  onChanged: null,", ")"] := by
  decide

end Element

end ScreenDesign
