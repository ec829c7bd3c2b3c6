import ScreenDesign.Proofs.Readable

/-!
# One field of a bag

A bag whose keys do not repeat gives each field of an element in one of two ways.

*As it stands.*  If the whole bag reads, the field has the value that it reads
(`Field.valueIn`).

*Coerced.*  If any field fails to read, the whole bag is coerced, and the field has what its
kind takes from the member under its key, or its default (`Field.coercedIn`).  The second name
no longer counts.

Both values come from the members under the key and the second name of the field alone.  So
the rest of the bag has one way to change how a field is read: it decides whether the whole
bag reads (`Element.value_of_field`).  The two values agree wherever a member is already what
its kind takes from it, and a field that does not read by itself is always coerced.  But a
switch that is `"off"` is off as it stands and back at its default once another field fails.
-/

namespace ScreenDesign

theorem FieldValue.toJson_injective : Function.Injective FieldValue.toJson := by
  intro v w h
  cases v <;> cases w <;> cases h <;> rfl

theorem FieldKind.take?_null (kind : FieldKind) : kind.take? .null = none := by
  cases kind <;> rfl

/-! ## The coerced value of a field -/

/-- The value that a field has once its bag is coerced. -/
def Field.coercedIn (f : Field) (bag : Bag) : FieldValue :=
  ((bag.get? f.key).bind f.kind.take?).getD f.default

namespace ComponentType

variable {t : ComponentType} {f : Field}

theorem get?_mergeMember_of_ne {bag : Bag} {member : String × Json} {key : String}
    (h : member.1 ≠ key) : (t.mergeMember bag member).get? key = bag.get? key := by
  rw [mergeMember]
  split
  · exact Entries.get?_insert_of_ne _ _ h
  · rfl

/-- What the kind of a field takes replaces its value, and anything else leaves it alone. -/
theorem get?_mergeMember_key (hf : f ∈ t.fields) (bag : Bag) (j : Json) :
    (t.mergeMember bag (f.key, j)).get? f.key =
      ((f.kind.take? j).map FieldValue.toJson).or (bag.get? f.key) := by
  rw [mergeMember, judge, kind?_key hf]
  by_cases hnull : j = .null
  · rw [if_pos hnull, hnull, FieldKind.take?_null]
    rfl
  · rw [if_neg hnull]
    cases htake : f.kind.take? j with
    | none => simp [htake]
    | some v => simp [htake]

/-- Members with other keys leave a value alone. -/
theorem get?_mergeMembers_of_notMem {key : String} {members : Bag}
    (h : key ∉ Entries.keys members) (bag : Bag) :
    (members.foldl t.mergeMember bag).get? key = bag.get? key := by
  induction members generalizing bag with
  | nil => rfl
  | cons member members ih =>
      rw [Entries.keys_cons, List.mem_cons, not_or] at h
      rw [List.foldl_cons, ih h.2, get?_mergeMember_of_ne (Ne.symm h.1)]

/-- A field takes its value from the one member with its key. -/
theorem get?_mergeMembers (hf : f ∈ t.fields) {members : Bag}
    (distinct : (Entries.keys members).Nodup) (bag : Bag) :
    (members.foldl t.mergeMember bag).get? f.key =
      (((members.get? f.key).bind f.kind.take?).map FieldValue.toJson).or (bag.get? f.key) := by
  induction members generalizing bag with
  | nil => rfl
  | cons member members ih =>
      obtain ⟨key, j⟩ := member
      rw [Entries.keys_cons, List.nodup_cons] at distinct
      rw [List.foldl_cons, Entries.get?]
      by_cases hkey : key = f.key
      · subst hkey
        rw [get?_mergeMembers_of_notMem distinct.1, get?_mergeMember_key hf, if_pos rfl]
        rfl
      · rw [ih distinct.2, get?_mergeMember_of_ne hkey, if_neg hkey]

theorem get?_defaults (hf : f ∈ t.fields) :
    Entries.get? t.defaults f.key = some f.default.toJson := by
  have hmem : (f.key, f.default.toJson) ∈ t.defaults := List.mem_map.mpr ⟨f, hf, rfl⟩
  exact Entries.get?_of_mem (settled_defaults t).distinct hmem

/-- A coerced bag holds the coerced value of each field. -/
theorem get?_coerce (hf : f ∈ t.fields) {bag : Bag} (distinct : (Entries.keys bag).Nodup) :
    Entries.get? (t.coerce (.object bag)) f.key = some (f.coercedIn bag).toJson := by
  rw [coerce, get?_mergeMembers hf distinct, get?_defaults hf, Field.coercedIn]
  cases (bag.get? f.key).bind f.kind.take? <;> rfl

/-- A coerced bag reads as the coerced values. -/
theorem valueIn_coerce (hf : f ∈ t.fields) {bag : Bag} (distinct : (Entries.keys bag).Nodup) :
    f.valueIn (t.coerce (.object bag)) = f.coercedIn bag := by
  have hread := ((settled_coerce t (.object bag)).get?_key hf).1
  rw [get?_coerce hf distinct] at hread
  exact (FieldValue.toJson_injective (Option.some.inj hread)).symm

end ComponentType

/-! ## What a field depends on -/

namespace Field

variable {f : Field} {bag bag' : Bag}

theorem read_congr (hkey : bag.get? f.key = bag'.get? f.key)
    (hname : bag.get? f.name = bag'.get? f.name) : f.read bag = f.read bag' := by
  rw [read, read, given?, given?, hkey, hname]

theorem valueIn_congr (hkey : bag.get? f.key = bag'.get? f.key)
    (hname : bag.get? f.name = bag'.get? f.name) : f.valueIn bag = f.valueIn bag' := by
  rw [valueIn, valueIn, read_congr hkey hname]

theorem coercedIn_congr (hkey : bag.get? f.key = bag'.get? f.key) :
    f.coercedIn bag = f.coercedIn bag' := by
  rw [coercedIn, coercedIn, hkey]

end Field

/-! ## Members that both ways read alike -/

/-- Whether a value has the same reading as it stands and coerced, if it has one at all.  The
two ways differ only on words for a truth value, and on truth values, texts and binary64
numbers that are whole or not finite in the place of a number. -/
def FieldKind.steady : FieldKind → Json → Bool
  | .boolean, .text _ => false
  | .number, .bool _ => false
  | .number, .text _ => false
  | .number, .number (.float x) => x.isFinite && x.whole?.isNone
  | _, _ => true

theorem FieldKind.take?_of_flagOfInt {low high n : Int} {v : FieldValue}
    (h : FieldValue.flagOfInt low high n = .ok v) :
    FieldKind.boolean.take? (.number (.int n)) = some v := by
  rw [FieldValue.flagOfInt] at h
  split at h
  case isTrue hzero =>
      cases h
      rw [hzero]
      rfl
  case isFalse =>
      split at h
      case isTrue hone =>
          cases h
          rw [hone]
          rfl
      case isFalse => cases h

/-- What is read from a steady value is also taken from it. -/
theorem FieldKind.take?_of_steady {kind : FieldKind} {j : Json} {v : FieldValue}
    (hsteady : kind.steady j = true) (h : FieldValue.read kind j = .ok v) :
    kind.take? j = some v := by
  cases kind with
  | text =>
      cases j with
      | text s =>
          cases h
          rfl
      | _ => cases h
  | structured =>
      cases j with
      | text s =>
          cases h
          rfl
      | _ => cases h
  | boolean =>
      cases j with
      | bool b =>
          cases h
          rfl
      | number n =>
          cases n with
          | int n => exact take?_of_flagOfInt h
          | float x =>
              rw [FieldValue.read, FieldValue.readFlag, FieldValue.flagOfNumber] at h
              split at h
              case h_1 n hwhole =>
                  have hsettle : (Number.float x).settle = (Number.int n).settle := by
                    simp only [Number.settle, hwhole]
                  rw [take?, Json.toFlag?, hsettle]
                  exact take?_of_flagOfInt h
              case h_2 => cases h
      | text s => cases hsteady
      | _ => cases h
  | number =>
      cases j with
      | number n =>
          cases h
          cases n with
          | int n => rfl
          | float x =>
              obtain ⟨hfinite, hwhole⟩ := Bool.and_eq_true_iff.mp hsteady
              rw [Option.isNone_iff_eq_none] at hwhole
              have hnumber : (Number.float x).isFinite = true := hfinite
              rw [take?, Json.toNumber?, Json.finiteNumber?_number hnumber, Option.map_some,
                Number.settle, hwhole]
              rfl
      | bool b => cases hsteady
      | text s => cases hsteady
      | _ => cases h

/-! ## The value of a field -/

/-- Whether a bag reads as it stands. -/
def ComponentType.reads (t : ComponentType) (bag : Bag) : Bool :=
  match Record.read t bag with
  | .ok _ => true
  | .error _ => false

namespace Field

variable {t : ComponentType} {f : Field} {bag bag' : Bag}

/-- The value that a field of a type has in any bag. -/
def typedIn (t : ComponentType) (f : Field) (bag : Bag) : FieldValue :=
  if t.reads bag then f.valueIn bag else f.coercedIn bag

/-- A bag with a field that does not read does not read. -/
theorem reads_of_error (hf : f ∈ t.fields) {faults : List Mismatch}
    (h : f.read bag = .error faults) : t.reads bag = false := by
  rw [ComponentType.reads]
  cases hread : Record.read t bag with
  | ok r =>
      rw [(Record.entries_of_read hread).1 f hf] at h
      cases h
  | error faults => rfl

/-- A field that does not read is coerced. -/
theorem typedIn_of_error (hf : f ∈ t.fields) {faults : List Mismatch}
    (h : f.read bag = .error faults) : f.typedIn t bag = f.coercedIn bag := by
  rw [typedIn, reads_of_error hf h]
  rfl

theorem read_of_get? {j : Json} (hget : bag.get? f.key = some j) :
    f.read bag = (FieldValue.read f.kind j).below (.member f.key) := by
  rw [read, given?, hget]

/-- A steady value that reads is kept. -/
theorem typedIn_of_steady {j : Json} {v : FieldValue} (hget : bag.get? f.key = some j)
    (hsteady : f.kind.steady j = true) (hread : FieldValue.read f.kind j = .ok v) :
    f.typedIn t bag = v := by
  have hvalue : f.valueIn bag = v := by
    apply valueIn_of_read
    rw [read_of_get? hget, hread]
    rfl
  have hcoerced : f.coercedIn bag = v := by
    rw [coercedIn, hget, Option.bind_some, FieldKind.take?_of_steady hsteady hread,
      Option.getD_some]
  rw [typedIn, hvalue, hcoerced, ite_self]

/-- A steady value is the same in every bag. -/
theorem typedIn_congr_of_steady (hf : f ∈ t.fields) {j : Json} (hget : bag.get? f.key = some j)
    (hget' : bag'.get? f.key = some j) (hsteady : f.kind.steady j = true) :
    f.typedIn t bag = f.typedIn t bag' := by
  cases hread : FieldValue.read f.kind j with
  | ok v => rw [typedIn_of_steady hget hsteady hread, typedIn_of_steady hget' hsteady hread]
  | error faults =>
      have herror {bag : Bag} (hget : bag.get? f.key = some j) :
          ∃ faults, f.read bag = .error faults := by
        rw [read_of_get? hget, hread]
        exact ⟨_, rfl⟩
      obtain ⟨faults, hfaults⟩ := herror hget
      obtain ⟨faults', hfaults'⟩ := herror hget'
      rw [typedIn_of_error hf hfaults, typedIn_of_error hf hfaults',
        coercedIn_congr (hget.trans hget'.symm)]

end Field

namespace Element

/-- The record of an element holds the value of each field. -/
theorem value?_of_record {e : Element} {f : Field} (hf : f ∈ e.type.fields)
    (distinct : (Entries.keys e.properties).Nodup) {r : Record} (hr : e.record.result = .ok r) :
    r.value? f.key = some (f.typedIn e.type e.properties) := by
  rw [Field.typedIn, ComponentType.reads]
  cases hread : Record.read e.type e.properties with
  | ok r' =>
      rw [record_of_read hread] at hr
      cases hr
      exact Record.value?_of_read hread hf
  | error faults =>
      rcases read_of_record hr with h | h
      · rw [hread] at h
        cases h
      · rw [Record.value?_of_read h hf, ComponentType.valueIn_coerce hf distinct]
        rfl

/-- What a field of an element is read as.  Every element has a record.  If its whole bag
reads, a field has the value that it reads, and otherwise its coerced value, and both come
from the members under its key and its second name.  So two bags that agree there give the
field the same value exactly if both read, or neither does, or the two values are the same.
A steady value is the same in both and kept if it reads, and a field that does not read is
coerced in both. -/
theorem value_of_field {e e' : Element} {f : Field} (htype : e'.type = e.type)
    (hf : f ∈ e.type.fields) (distinct : (Entries.keys e.properties).Nodup)
    (distinct' : (Entries.keys e'.properties).Nodup)
    (hkey : Entries.get? e'.properties f.key = Entries.get? e.properties f.key)
    (hname : Entries.get? e'.properties f.name = Entries.get? e.properties f.name) :
    ∃ r r', e.record.result = .ok r ∧ e'.record.result = .ok r' ∧
      r.value? f.key = some (if e.type.reads e.properties then f.valueIn e.properties
        else f.coercedIn e.properties) ∧
      (r.value? f.key = r'.value? f.key ↔
        e.type.reads e.properties = e'.type.reads e'.properties ∨
          f.valueIn e.properties = f.coercedIn e.properties) ∧
      (∀ j, Entries.get? e.properties f.key = some j → f.kind.steady j = true →
        r.value? f.key = r'.value? f.key ∧
          ∀ v, FieldValue.read f.kind j = .ok v → r.value? f.key = some v) ∧
      ∀ faults, f.read e.properties = .error faults →
        r.value? f.key = some (f.coercedIn e.properties) ∧
          r'.value? f.key = some (f.coercedIn e.properties) := by
  obtain ⟨r, hr, -⟩ := e.exists_record
  obtain ⟨r', hr', -⟩ := e'.exists_record
  have hvalue := value?_of_record hf distinct hr
  have hvalue' := value?_of_record (htype ▸ hf : f ∈ e'.type.fields) distinct' hr'
  rw [htype] at hvalue'
  refine ⟨r, r', hr, hr', hvalue, ?_, ?_, ?_⟩
  · rw [hvalue, hvalue', Field.typedIn, Field.typedIn, Field.valueIn_congr hkey hname,
      Field.coercedIn_congr hkey, htype]
    cases e.type.reads e.properties <;> cases e.type.reads e'.properties <;> simp [eq_comm]
  · intro j hget hsteady
    rw [hvalue, hvalue']
    refine ⟨congrArg some (Field.typedIn_congr_of_steady hf hget (hkey.trans hget) hsteady), ?_⟩
    exact fun v hread => congrArg some (Field.typedIn_of_steady hget hsteady hread)
  · intro faults hfaults
    have hfaults' : f.read e'.properties = .error faults := by
      rw [Field.read_congr hkey hname, hfaults]
    rw [hvalue, hvalue', Field.typedIn_of_error hf hfaults, Field.typedIn_of_error hf hfaults',
      Field.coercedIn_congr hkey]
    exact ⟨rfl, rfl⟩

/-- A button with sharp corners, and with more members in its bag. -/
def sharpButton (members : Bag) : Element :=
  ⟨"a", .button, 20, 50, 100, 50, ("rounded", .text "off") :: members⟩

theorem value_of_rounded_field :
    ∃ r r', (sharpButton []).record.result = .ok r ∧
      (sharpButton [("text", .int 5)]).record.result = .ok r' ∧
      r.value? "rounded" = some (.flag false) ∧ r.value? "rounded" ≠ r'.value? "rounded" := by
  obtain ⟨r, r', hr, hr', hvalue, hsame, -⟩ :=
    @value_of_field (sharpButton []) (sharpButton [("text", .int 5)])
      (Field.flag "rounded" "rounded" true) rfl (by decide) (by decide) (by decide)
      (by decide) (by decide)
  refine ⟨r, r', hr, hr', hvalue.trans (by decide), ?_⟩
  exact fun h => absurd (hsame.mp h) (by decide)

/-- The corners of a button are given in the same way in two bags, and yet they are sharp in
the one and round in the other, where the text is a number. -/
theorem rounded_depends_on_text :
    (Entries.get? (sharpButton []).properties "rounded" =
        Entries.get? (sharpButton [("text", .int 5)]).properties "rounded") ∧
      ∃ r r', (sharpButton []).record.result = .ok r ∧
        (sharpButton [("text", .int 5)]).record.result = .ok r' ∧
        r.value? "rounded" = some (.flag false) ∧ r'.value? "rounded" = some (.flag true) := by
  refine ⟨by decide, ?_⟩
  obtain ⟨r, hr, -⟩ := (sharpButton []).exists_record
  obtain ⟨r', hr', -⟩ := (sharpButton [("text", .int 5)]).exists_record
  have hfield : Field.flag "rounded" "rounded" true ∈ ComponentType.button.fields := by decide
  have hsharp : (Field.flag "rounded" "rounded" true).typedIn .button (sharpButton []).properties =
      .flag false := by decide
  have hround : (Field.flag "rounded" "rounded" true).typedIn .button
      (sharpButton [("text", .int 5)]).properties = .flag true := by decide
  refine ⟨r, r', hr, hr', ?_, ?_⟩
  · exact (value?_of_record hfield (by decide) hr).trans (congrArg some hsharp)
  · exact (value?_of_record hfield (by decide) hr').trans (congrArg some hround)

end Element

end ScreenDesign
