import ScreenDesign.Coercion
import ScreenDesign.Proofs.Entries

/-!
# Settled bags

A bag is *settled* for a type if coercion has nothing left to do in it: the keys of
the fields come first and in order, no key repeats, and every member is kept with
the value that it has.

*One step.*  The value that a kind takes is taken again as it is
(`FieldKind.take?_spec`), so the verdict on a kept value is to keep it
(`judge_keep`).  Merging a judged member into a settled bag gives a settled bag
(`Settled.mergeMember`).

*A whole bag.*  The defaults are settled, and so every coerced bag is
(`settled_coerce`).  A settled bag is coerced to itself (`Settled.coerce_eq`), and
it is stored as it is (`Settled.stored_eq`).
-/

namespace ScreenDesign

/-! ## Numbers -/

theorem Number.isFinite_settle {n : Number} (h : n.isFinite = true) :
    n.settle.isFinite = true := by
  cases n with
  | int n => rfl
  | float x =>
      rw [Number.settle]
      split
      · rfl
      · exact h

namespace Json

theorem isFinite_of_finiteNumber? {j : Json} {n : Number} (h : j.finiteNumber? = some n) :
    n.isFinite = true := by
  cases j with
  | number m =>
      rw [finiteNumber?] at h
      split at h
      case isTrue finite =>
          cases h
          exact finite
      case isFalse => cases h
  | text s =>
      rw [finiteNumber?] at h
      split at h
      case h_1 x _ =>
          split at h
          case isTrue finite =>
              cases h
              exact finite
          case isFalse => cases h
      case h_2 => cases h
  | _ => cases h

theorem finiteNumber?_number {n : Number} (h : n.isFinite = true) :
    (number n).finiteNumber? = some n := by
  rw [finiteNumber?, if_pos h]

/-- The number of a value is settled already, and finite. -/
theorem toNumber?_number {j : Json} {n : Number} (h : j.toNumber? = some n) :
    n.isFinite = true ∧ (number n).toNumber? = some n := by
  obtain ⟨m, found, rfl⟩ := Option.map_eq_some_iff.mp h
  have finite := Number.isFinite_settle (isFinite_of_finiteNumber? found)
  refine ⟨finite, ?_⟩
  rw [toNumber?, finiteNumber?_number finite, Option.map_some, Number.settle_settle]

end Json

/-! ## Values of a kind -/

namespace FieldKind

/-- What a kind takes is of the kind, is taken again as it is, and is a text, a truth
value or a finite number. -/
theorem take?_spec {kind : FieldKind} {j : Json} {v : FieldValue} (h : kind.take? j = some v) :
    kind.holds v = true ∧ kind.take? v.toJson = some v ∧ v.toJson.isScalar = true := by
  cases kind with
  | text =>
      obtain ⟨s, -, rfl⟩ := Option.map_eq_some_iff.mp h
      exact ⟨rfl, rfl, rfl⟩
  | number =>
      -- Only here does the text of a value not decide what it is: the number was settled.
      obtain ⟨n, found, rfl⟩ := Option.map_eq_some_iff.mp h
      obtain ⟨finite, again⟩ := Json.toNumber?_number found
      refine ⟨rfl, ?_, finite⟩
      rw [take?, FieldValue.toJson, again, Option.map_some]
  | boolean =>
      obtain ⟨b, -, rfl⟩ := Option.map_eq_some_iff.mp h
      exact ⟨rfl, rfl, rfl⟩
  | structured =>
      obtain ⟨s, -, rfl⟩ := Option.map_eq_some_iff.mp h
      exact ⟨rfl, rfl, rfl⟩

end FieldKind

namespace Json

theorem ne_null_of_isScalar {j : Json} (h : j.isScalar = true) : j ≠ .null := by
  rintro rfl
  cases h

theorem stored_of_isScalar {j : Json} (h : j.isScalar = true) : j.stored = j := by
  cases j with
  | number n =>
      rw [stored]
      exact if_pos h
  | text s => rfl
  | bool b => rfl
  | _ => cases h

end Json

namespace ComponentType

/-! ## Verdicts -/

/-- A value is kept under a key without a field exactly if it is simple. -/
theorem judge_of_kind?_none {t : ComponentType} {key : String} {j : Json}
    (h : t.kind? key = none) (scalar : j.isScalar = true) : t.judge key j = .keep j := by
  rw [judge, if_neg (Json.ne_null_of_isScalar scalar), h]
  exact if_pos scalar

/-- A value that the kind of its key takes is kept as what is taken. -/
theorem judge_of_take? {t : ComponentType} {key : String} {kind : FieldKind} {j : Json}
    {v : FieldValue} (found : t.kind? key = some kind) (h : kind.take? j = some v)
    (given : j ≠ .null) : t.judge key j = .keep v.toJson := by
  simp only [judge, if_neg given, found, h]

/-- The two ways in which a value comes to be kept. -/
theorem judge_eq_keep {t : ComponentType} {key : String} {j k : Json}
    (h : t.judge key j = .keep k) :
    (t.kind? key = none ∧ j.isScalar = true ∧ k = j) ∨
      ∃ kind v, t.kind? key = some kind ∧ kind.take? j = some v ∧ k = v.toJson := by
  rw [judge] at h
  split at h
  case isTrue => cases h
  case isFalse given =>
      split at h
      case h_1 none =>
          split at h
          case isTrue scalar =>
              cases h
              exact Or.inl ⟨none, scalar, rfl⟩
          case isFalse => cases h
      case h_2 kind found =>
          split at h
          case h_1 v taken =>
              cases h
              exact Or.inr ⟨kind, v, found, taken, rfl⟩
          case h_2 => cases h

theorem isScalar_of_judge {t : ComponentType} {key : String} {j k : Json}
    (h : t.judge key j = .keep k) : k.isScalar = true := by
  rcases judge_eq_keep h with ⟨-, scalar, rfl⟩ | ⟨kind, v, -, taken, rfl⟩
  · exact scalar
  · exact (FieldKind.take?_spec taken).2.2

/-- What was kept is kept again as it is. -/
theorem judge_keep {t : ComponentType} {key : String} {j k : Json}
    (h : t.judge key j = .keep k) : t.judge key k = .keep k := by
  have scalar := isScalar_of_judge h
  rcases judge_eq_keep h with ⟨none, -, rfl⟩ | ⟨kind, v, found, taken, rfl⟩
  · exact judge_of_kind?_none none scalar
  · exact judge_of_take? found (FieldKind.take?_spec taken).2.1 (Json.ne_null_of_isScalar scalar)

/-- A kept value under the key of a field is a value of the field's kind. -/
theorem exists_holds_of_judge {t : ComponentType} {f : Field} {j : Json}
    (found : t.kind? f.key = some f.kind) (h : t.judge f.key j = .keep j) :
    ∃ v, j = v.toJson ∧ f.kind.holds v = true := by
  rcases judge_eq_keep h with ⟨none, -, -⟩ | ⟨kind, v, kindFound, taken, same⟩
  · rw [found] at none
    cases none
  · rw [found] at kindFound
    cases kindFound
    exact ⟨v, same, (FieldKind.take?_spec taken).1⟩

/-! ## Fields -/

theorem field?_key {t : ComponentType} {f : Field} (h : f ∈ t.fields) :
    t.field? f.key = some f := by
  have distinct : (t.fields.map Field.key).Nodup := t.keys_nodup
  have unique : ∀ g ∈ t.fields, g.key = f.key → g = f := fun g hg same =>
    List.inj_on_of_nodup_map distinct hg h same
  cases found : t.field? f.key with
  | none =>
      have := List.find?_eq_none.mp found f h
      simp at this
  | some g =>
      have same : g.key = f.key := by simpa using List.find?_some found
      rw [unique g (List.mem_of_find?_eq_some found) same]

theorem kind?_key {t : ComponentType} {f : Field} (h : f ∈ t.fields) :
    t.kind? f.key = some f.kind := by
  rw [kind?, field?_key h, Option.map_some]

@[simp] theorem keys_defaults (t : ComponentType) : Entries.keys t.defaults = t.keys := by
  rw [defaults, Entries.keys, List.map_map]
  rfl

/-- Each default is a value that its field takes as it is. -/
theorem take?_default (t : ComponentType) :
    ∀ f ∈ t.fields, f.kind.take? f.default.toJson = some f.default := by
  cases t <;> simp [fields, buttonFields, textFieldFields, cardFields, listFields, iconFields,
    containerFields, flexFields, stackFields, toggleFields, checkboxFields, radioFields,
    chatInputFields, chatMessageFields, dropdownFields, inputWithLabelFields,
    toggleWithLabelFields, radioWithLabelFields, checkboxWithLabelFields, dynamicTableFields,
    Field.text, Field.number, Field.flag, Field.structured, FieldKind.take?, FieldValue.toJson,
    Json.toText?, Json.toNumber?, Json.toFlag?, Json.toStructured?, Json.finiteNumber?,
    Number.isFinite, Number.settle]

/-! ## The invariant -/

/-- A bag in which coercion has nothing left to do. -/
structure Settled (t : ComponentType) (bag : Bag) : Prop where
  /-- The keys of the fields come first, in order. -/
  fieldsFirst : t.keys <+: Entries.keys bag
  /-- No key repeats. -/
  distinct : (Entries.keys bag).Nodup
  /-- Every member is kept as it is. -/
  kept : ∀ member ∈ bag, t.judge member.1 member.2 = .keep member.2

theorem settled_defaults (t : ComponentType) : t.Settled t.defaults where
  fieldsFirst := ⟨[], by rw [List.append_nil, keys_defaults]⟩
  distinct := by
    rw [keys_defaults]
    exact t.keys_nodup
  kept := by
    intro member hmember
    obtain ⟨f, hf, rfl⟩ := List.mem_map.mp hmember
    have taken := take?_default t f hf
    exact judge_of_take? (kind?_key hf) taken
      (Json.ne_null_of_isScalar (FieldKind.take?_spec taken).2.2)

/-- Merging a judged member keeps a bag settled. -/
theorem Settled.mergeMember {t : ComponentType} {bag : Bag} (h : t.Settled bag)
    (member : String × Json) : t.Settled (t.mergeMember bag member) := by
  rw [ComponentType.mergeMember]
  split
  case h_1 value kept =>
      refine ⟨Entries.prefix_keys_insert h.fieldsFirst _ _,
        Entries.nodup_keys_insert h.distinct _ _, ?_⟩
      intro other hother
      rcases Entries.mem_insert hother with rfl | old
      · exact judge_keep kept
      · exact h.kept other old
  case h_2 => exact h

theorem Settled.mergeMembers {t : ComponentType} {bag : Bag} (h : t.Settled bag)
    (members : List (String × Json)) : t.Settled (members.foldl t.mergeMember bag) := by
  induction members generalizing bag with
  | nil => exact h
  | cons m ms ih => exact ih (h.mergeMember m)

/-- Coercion gives a settled bag, whatever it is given. -/
theorem settled_coerce (t : ComponentType) (j : Json) : t.Settled (t.coerce j) := by
  cases j with
  | object members => exact (settled_defaults t).mergeMembers members
  | _ => exact settled_defaults t

namespace Settled

variable {t : ComponentType} {bag : Bag}

theorem has_key (h : t.Settled bag) {key : String} (hkey : key ∈ t.keys) :
    Entries.has bag key = true :=
  (Entries.has_iff_mem_keys bag key).mpr (h.fieldsFirst.subset hkey)

/-- Merging members that are kept as they are is writing them. -/
theorem foldl_mergeMember {ms : List (String × Json)}
    (kept : ∀ member ∈ ms, t.judge member.1 member.2 = .keep member.2) (start : Bag) :
    ms.foldl t.mergeMember start = Entries.insertAll start ms := by
  induction ms generalizing start with
  | nil => rfl
  | cons m ms ih =>
      have first : t.mergeMember start m = Entries.insert start m.1 m.2 := by
        rw [ComponentType.mergeMember, kept m List.mem_cons_self]
      rw [List.foldl_cons, first, ih fun member later => kept member (List.mem_cons_of_mem _ later)]
      rfl

/-- A settled bag is coerced to itself. -/
theorem coerce_eq (h : t.Settled bag) : t.coerce (.object bag) = bag := by
  have first : Entries.keys t.defaults <+: Entries.keys bag := by
    rw [keys_defaults]
    exact h.fieldsFirst
  calc t.coerce (.object bag) = bag.foldl t.mergeMember t.defaults := rfl
    _ = Entries.insertAll t.defaults bag := foldl_mergeMember h.kept _
    _ = bag := Entries.insertAll_of_prefix first h.distinct

/-- A settled bag is stored as it is. -/
theorem stored_eq (h : t.Settled bag) : Json.storedMembers bag = bag := by
  have same : ∀ ms : List (String × Json), (∀ m ∈ ms, m.2.isScalar = true) →
      Json.storedMembers ms = ms := by
    intro ms
    induction ms with
    | nil => exact fun _ => rfl
    | cons m ms ih =>
        intro scalar
        obtain ⟨key, j⟩ := m
        rw [Json.storedMembers, Json.stored_of_isScalar (scalar _ List.mem_cons_self),
          ih fun m later => scalar m (List.mem_cons_of_mem _ later)]
  exact same bag fun m hm => isScalar_of_judge (h.kept m hm)

end Settled

end ComponentType

end ScreenDesign
