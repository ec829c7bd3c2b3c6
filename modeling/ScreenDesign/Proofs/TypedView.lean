import ScreenDesign.Element
import ScreenDesign.Proofs.SettledBag

/-!
# The typed view of a bag

Reading a record out of a bag and coercing the bag are two systems of rules.  They
fit together on settled bags.

*Kinds.*  Whatever is read as a kind is of that kind (`FieldValue.holds_of_read`), and
a value of a kind is read back from a bag as it is (`FieldValue.read_toJson`).

*Settled bags.*  In a settled bag every field stands under its key with a value of its
kind, so the record is read at once, and storing the record gives the bag back
(`Settled.exists_read`).  Members beside the fields are kept, also under the second
name of a field.

*Any bag.*  A bag that does not read as it is gets coerced first.  The coerced bag is
settled, so the second reading succeeds, and no bag makes `Element.record` fail.
-/

namespace ScreenDesign

/-! ## Values -/

namespace FieldValue

theorem holds_of_readText {j : Json} {v : FieldValue} (h : readText j = .ok v) :
    ∃ s, v = .text s := by
  cases j with
  | text s =>
      cases h
      exact ⟨s, rfl⟩
  | _ => cases h

theorem holds_of_flagOfInt {low high n : Int} {v : FieldValue}
    (h : flagOfInt low high n = .ok v) : ∃ b, v = .flag b := by
  rw [flagOfInt] at h
  split at h
  case isTrue =>
      cases h
      exact ⟨false, rfl⟩
  case isFalse =>
      split at h
      case isTrue =>
          cases h
          exact ⟨true, rfl⟩
      case isFalse => cases h

theorem holds_of_readFlag {j : Json} {v : FieldValue} (h : readFlag j = .ok v) :
    ∃ b, v = .flag b := by
  cases j with
  | bool b =>
      cases h
      exact ⟨b, rfl⟩
  | number n =>
      cases n with
      | int n => exact holds_of_flagOfInt h
      | float x =>
          rw [readFlag, flagOfNumber] at h
          split at h
          case h_1 => exact holds_of_flagOfInt h
          case h_2 => cases h
  | text s =>
      simp only [readFlag] at h
      split at h
      case isTrue =>
          cases h
          exact ⟨true, rfl⟩
      case isFalse =>
          split at h
          case isTrue =>
              cases h
              exact ⟨false, rfl⟩
          case isFalse => cases h
  | _ => cases h

theorem holds_of_readNumber {j : Json} {v : FieldValue} (h : readNumber j = .ok v) :
    ∃ n, v = .number n := by
  cases j with
  | number n =>
      cases h
      exact ⟨n, rfl⟩
  | bool b =>
      cases h
      exact ⟨_, rfl⟩
  | text s =>
      rw [readNumber] at h
      split at h
      case h_1 n _ =>
          cases h
          exact ⟨.int n, rfl⟩
      case h_2 =>
          split at h
          case h_1 x _ =>
              cases h
              exact ⟨.float x, rfl⟩
          case h_2 => cases h
  | _ => cases h

theorem holds_of_read {kind : FieldKind} {j : Json} {v : FieldValue}
    (h : read kind j = .ok v) : kind.holds v = true := by
  cases kind with
  | text =>
      obtain ⟨s, rfl⟩ := holds_of_readText h
      rfl
  | structured =>
      obtain ⟨s, rfl⟩ := holds_of_readText h
      rfl
  | number =>
      obtain ⟨n, rfl⟩ := holds_of_readNumber h
      rfl
  | boolean =>
      obtain ⟨b, rfl⟩ := holds_of_readFlag h
      rfl

theorem read_toJson {kind : FieldKind} {v : FieldValue} (h : kind.holds v = true) :
    read kind v.toJson = .ok v := by
  cases kind <;> cases v <;> first | rfl | cases h

end FieldValue

namespace Checked

variable {α β : Type}

theorem below_eq_ok_iff {step : Step} {x : Checked α} {a : α} :
    x.below step = .ok a ↔ x = .ok a := by
  cases x <;> simp [below]

/-- All values of a list were read exactly if each was. -/
theorem all_eq_ok_iff {xs : List (Checked α)} {as : List α} :
    all xs = .ok as ↔ xs = as.map Except.ok := by
  induction xs generalizing as with
  | nil => cases as <;> simp [all]
  | cons x xs ih =>
      constructor
      · intro h
        rw [all] at h
        cases hp : pair x (all xs) with
        | error ms => rw [hp] at h; cases h
        | ok p =>
            obtain ⟨b, bs⟩ := p
            obtain ⟨hx, hxs⟩ := pair_eq_ok_iff.mp hp
            rw [hp] at h
            cases h
            rw [hx, ih.mp hxs, List.map_cons]
      · intro h
        cases as with
        | nil => cases h
        | cons a as =>
            rw [List.map_cons, List.cons.injEq] at h
            rw [all, pair_eq_ok_iff.mpr ⟨h.1, ih.mpr h.2⟩]
            rfl

end Checked

/-! ## Records -/

/-- A record of a type: every field, in order, with a value of its kind. -/
structure Record.WellTyped (t : ComponentType) (r : Record) : Prop where
  /-- The fields are those of the type. -/
  fields : r.entries.map Prod.fst = t.fields
  /-- Each value is of the kind of its field. -/
  holds : ∀ entry ∈ r.entries, entry.1.kind.holds entry.2 = true

namespace Field

/-- The value that a field has in a bag that can be read. -/
def valueIn (f : Field) (bag : Bag) : FieldValue :=
  match f.read bag with
  | .ok v => v
  | .error _ => f.default

theorem valueIn_of_read {f : Field} {bag : Bag} {v : FieldValue} (h : f.read bag = .ok v) :
    f.valueIn bag = v := by
  rw [valueIn, h]

/-- What a field of a type reads is of its kind. -/
theorem holds_of_read {t : ComponentType} {f : Field} (hf : f ∈ t.fields) {bag : Bag}
    {v : FieldValue} (h : f.read bag = .ok v) : f.kind.holds v = true := by
  rw [read] at h
  split at h
  case h_1 => exact FieldValue.holds_of_read (Checked.below_eq_ok_iff.mp h)
  case h_2 =>
      cases h
      exact t.holds_default f hf

end Field

namespace Record

/-- A record is read exactly if each field is, and then it holds their values. -/
theorem entries_of_read {t : ComponentType} {bag : Bag} {r : Record} (h : read t bag = .ok r) :
    (∀ f ∈ t.fields, f.read bag = .ok (f.valueIn bag)) ∧
      r.entries = t.fields.map fun f => (f, f.valueIn bag) := by
  simp only [read] at h
  cases hall : Checked.all (t.fields.map fun f => (f.read bag).map fun v => (f, v)) with
  | error ms => rw [hall] at h; cases h
  | ok entries =>
      rw [hall] at h
      cases h
      have same := Checked.all_eq_ok_iff.mp hall
      have each : ∀ f ∈ t.fields, f.read bag = .ok (f.valueIn bag) := by
        intro f hf
        have found : (f.read bag).map (fun v => (f, v)) ∈ entries.map Except.ok := by
          rw [← same]
          exact List.mem_map_of_mem hf
        obtain ⟨e, -, he⟩ := List.mem_map.mp found
        cases hv : f.read bag with
        | error ms => rw [hv] at he; cases he
        | ok v => rw [Field.valueIn_of_read hv]
      refine ⟨each, ?_⟩
      have values : (t.fields.map fun f => (f, f.valueIn bag)).map Except.ok =
          entries.map (Except.ok (ε := List Mismatch)) := by
        rw [← same, List.map_map]
        apply List.map_congr_left
        intro f hf
        rw [each f hf]
        rfl
      exact (List.map_injective_iff.mpr (fun _ _ => Except.ok.inj) values).symm

theorem wellTyped_of_read {t : ComponentType} {bag : Bag} {r : Record}
    (h : read t bag = .ok r) : r.WellTyped t := by
  obtain ⟨each, entries_eq⟩ := entries_of_read h
  constructor
  · rw [entries_eq, List.map_map]
    exact List.map_id _
  · intro entry hentry
    rw [entries_eq] at hentry
    obtain ⟨f, hf, rfl⟩ := List.mem_map.mp hentry
    exact Field.holds_of_read hf (each f hf)

end Record

namespace ComponentType.Settled

variable {t : ComponentType} {bag : Bag}

/-- A field of a settled bag is given under its key, and that is its value. -/
theorem get?_key (h : t.Settled bag) {f : Field} (hf : f ∈ t.fields) :
    Entries.get? bag f.key = some (f.valueIn bag).toJson ∧ f.read bag = .ok (f.valueIn bag) := by
  have present := h.fieldsFirst.subset (List.mem_map_of_mem hf : f.key ∈ t.keys)
  obtain ⟨j, found⟩ := Entries.exists_get?_of_mem_keys present
  obtain ⟨v, rfl, holds⟩ :=
    exists_holds_of_judge (kind?_key hf) (h.kept _ (Entries.mem_of_get? found))
  have given : f.given? bag = some (f.key, v.toJson) := by
    rw [Field.given?, found]
  have read : f.read bag = .ok v := by
    rw [Field.read, given]
    exact Checked.below_eq_ok_iff.mpr (FieldValue.read_toJson holds)
  rw [Field.valueIn_of_read read]
  exact ⟨found, read⟩

/-- The keys that the fields are read from are their own. -/
theorem filterMap_given? (h : t.Settled bag) :
    (t.fields.filterMap fun f => (f.given? bag).map Prod.fst) = t.keys := by
  have each : ∀ f ∈ t.fields, (f.given? bag).map Prod.fst = some f.key := by
    intro f hf
    rw [Field.given?, (h.get?_key hf).1]
    rfl
  exact (List.filterMap_congr each).trans (congrFun List.filterMap_eq_map _)

section

variable {front extra : Bag}

/-- The values of the fields, under their keys, are the front of the bag. -/
theorem map_valueIn (h : t.Settled (front ++ extra)) (hfront : Entries.keys front = t.keys) :
    (t.fields.map fun f => (f.key, (f.valueIn (front ++ extra)).toJson)) = front := by
  have each : ∀ f ∈ t.fields,
      (Entries.get? (front ++ extra) f.key).map (fun x => (f.key, x)) =
        some (f.key, (f.valueIn (front ++ extra)).toJson) := by
    intro f hf
    rw [(h.get?_key hf).1]
    rfl
  calc (t.fields.map fun f => (f.key, (f.valueIn (front ++ extra)).toJson))
      = t.fields.filterMap fun f =>
          (Entries.get? (front ++ extra) f.key).map fun x => (f.key, x) :=
        ((List.filterMap_congr each).trans (congrFun List.filterMap_eq_map _)).symm
    _ = t.keys.filterMap fun key =>
          (Entries.get? (front ++ extra) key).map fun x => (key, x) := by
        rw [keys, List.filterMap_map]
        rfl
    _ = front := by
        rw [← hfront]
        exact Entries.filterMap_get?_of_subset h.distinct (List.subset_append_left front extra)

/-- The members that belong to no field are the rest of the bag. -/
theorem filter_extra (h : t.Settled (front ++ extra)) (hfront : Entries.keys front = t.keys) :
    ((front ++ extra).filter fun member => !t.keys.contains member.1) = extra := by
  have distinct := h.distinct
  rw [Entries.keys_append, List.nodup_append] at distinct
  rw [List.filter_append, List.filter_eq_nil_iff.mpr, List.filter_eq_self.mpr, List.nil_append]
  · intro member hmember
    have new : member.1 ∉ t.keys := by
      rw [← hfront]
      exact fun old => distinct.2.2 _ old _ (Entries.key_mem_keys hmember) rfl
    simpa using new
  · intro member hmember
    have old : member.1 ∈ t.keys := by
      rw [← hfront]
      exact Entries.key_mem_keys hmember
    simpa using old

end

/-- A settled bag is read at once, and storing the record gives the bag back. -/
theorem exists_read (h : t.Settled bag) :
    ∃ r, Record.read t bag = .ok r ∧ r.toBag = bag := by
  have all : Checked.all (t.fields.map fun f => (f.read bag).map fun v => (f, v)) =
      .ok (t.fields.map fun f => (f, f.valueIn bag)) := by
    rw [Checked.all_eq_ok_iff, List.map_map]
    apply List.map_congr_left
    intro f hf
    rw [(h.get?_key hf).2]
    rfl
  refine ⟨_, by simp only [Record.read, all]; rfl, ?_⟩
  obtain ⟨rest, same⟩ := h.fieldsFirst
  obtain ⟨front, extra, rfl, hfront, -⟩ := List.map_eq_append_iff.mp same.symm
  simp only [Record.toBag, List.map_map, h.filterMap_given?, h.filter_extra hfront]
  exact congrArg (· ++ extra) (h.map_valueIn hfront)

end ComponentType.Settled

/-! ## Elements -/

namespace Element

theorem record_of_read {e : Element} {r : Record} (h : Record.read e.type e.properties = .ok r) :
    e.record = pure r := by
  rw [record, h]

/-- A bag that does not read as it is gives the record of the coerced bag. -/
theorem result_record_of_error {e : Element} {faults : List Mismatch}
    (h : Record.read e.type e.properties = .error faults) :
    e.record.result = strictRecord e.type (e.type.coerce (.object e.properties)) := by
  rw [record, h]
  rfl

/-- The record of an element is read from its bag or from the coerced one. -/
theorem read_of_record {e : Element} {r : Record} (h : e.record.result = .ok r) :
    Record.read e.type e.properties = .ok r ∨
      Record.read e.type (e.type.coerce (.object e.properties)) = .ok r := by
  cases hread : Record.read e.type e.properties with
  | ok r' =>
      rw [record_of_read hread] at h
      exact .inl (congrArg Except.ok (Except.ok.inj h))
  | error faults =>
      rw [result_record_of_error hread, strictRecord] at h
      cases hcoerced : Record.read e.type (e.type.coerce (.object e.properties)) with
      | ok r' => rw [hcoerced] at h; exact .inr (congrArg Except.ok (Except.ok.inj h))
      | error faults => rw [hcoerced] at h; cases h

theorem exists_read_of_record {e : Element} {r : Record} (h : e.record.result = .ok r) :
    ∃ bag, Record.read e.type bag = .ok r :=
  (read_of_record h).elim (fun h => ⟨_, h⟩) fun h => ⟨_, h⟩

/-- Every element has a record, and it is well typed. -/
theorem exists_record (e : Element) : ∃ r, e.record.result = .ok r ∧ r.WellTyped e.type := by
  cases h : Record.read e.type e.properties with
  | ok r =>
      refine ⟨r, ?_, Record.wellTyped_of_read h⟩
      rw [record_of_read h]
      rfl
  | error faults =>
      obtain ⟨r, hr, -⟩ :=
        (ComponentType.settled_coerce e.type (.object e.properties)).exists_read
      refine ⟨r, ?_, Record.wellTyped_of_read hr⟩
      rw [result_record_of_error h, strictRecord, hr]
      rfl

end Element

end ScreenDesign
