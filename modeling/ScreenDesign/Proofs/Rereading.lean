import ScreenDesign.Proofs.Encoding

/-!
# Reading structured values again

A reader of structured values makes a list of a value.  It fills the gaps in the records of the
value, or puts its example in their place.  The list is stored as text, and what is read from that
text is the same list (`read_again`).

The second reading has nothing left to fill or to replace.  The texts of a choice are not null, a
column has an id, and an item has a title (`choice?_choiceRecord` and those after it).  What
remains is that the text holds the list.  Choices and items are made of texts.  The widths of
columns and the cells of rows come from the value, which is writable if it was read from a text.
-/

namespace ScreenDesign.Structured

/-- The text in which a list is stored, with a record for each of its items. -/
def stored {α : Type} (toJson : α → Json) (as : List α) : Json :=
  .text (Json.list (as.map toJson)).compact

/-! ## Records of stored lists -/

section

variable {α : Type} {toJson : α → Json} {record : α → Bag} {as : List α}

/-- The records in a stored list are those of its items. -/
theorem records?_stored (hrecord : ∀ a, toJson a = .object (record a))
    (hwritable : ∀ a ∈ as, (toJson a).isWritable = true) :
    records? (stored toJson as) = .ok (some (as.map record)) := by
  have hobjects : as.map toJson = (as.map record).map .object := by
    rw [List.map_map]
    exact List.map_congr_left fun a _ => hrecord a
  have hlist : (Json.list (as.map toJson)).isWritable = true :=
    Json.isWritable_list_iff.mpr (List.forall_mem_map.mpr hwritable)
  rw [stored, records?_compact hlist, bags?_eq_some_iff.mpr (congrArg Json.list hobjects)]

/-- What is made of each item's record makes up the list. -/
theorem mapM_map {make : Bag → Option α} (h : ∀ a ∈ as, make (record a) = some a) :
    (as.map record).mapM make = some as :=
  mapM_eq_some_iff.mpr (List.forall₂_map_left_iff.mpr (List.forall₂_same.mpr h))

end

/-! ## Records without gaps -/

/-- The members of a choice. -/
def choiceRecord (c : Choice) : Bag := [("label", .text c.label), ("value", .text c.value)]

/-- The members of a column. -/
def columnRecord (c : Column) : Bag :=
  [("id", .text c.id), ("title", .text c.title), ("width", .number c.width)]

/-- The members of an item. -/
def itemRecord (i : ListItem) : Bag :=
  [("title", .text i.title), ("subtitle", .text i.subtitle), ("icon", .text i.icon)]

theorem choice?_choiceRecord (c : Choice) : choice? (choiceRecord c) = some c := rfl

theorem column?_columnRecord {c : Column} (h : c.id ≠ "") : column? (columnRecord c) = some c := by
  have hid : Json.text c.id ≠ .text "" := fun heq => h (Json.text.inj heq)
  have hgiven : given? (columnRecord c) "id" = some (.text c.id) := rfl
  rw [column?, hgiven]
  exact if_neg hid

theorem item_itemRecord (position : Nat) {i : ListItem} (h : i.title ≠ "") :
    item position (itemRecord i) = i := by
  have htruthy : (Json.text i.title).isTruthy = true := by simpa [Json.isTruthy] using h
  have htitle : (item position (itemRecord i)).title = i.title := if_pos htruthy
  cases i
  exact congrArg (ListItem.mk · _ _) htitle

theorem mapIdx_itemRecord {items : List ListItem} (h : ∀ i ∈ items, i.title ≠ "") :
    (items.map itemRecord).mapIdx item = items := by
  refine List.ext_getElem (by simp) fun position hleft hright => ?_
  rw [List.getElem_mapIdx, List.getElem_map]
  exact item_itemRecord position (h _ (List.getElem_mem hright))

/-! ## Writable records -/

theorem isWritable_choice (c : Choice) : c.toJson.isWritable = true :=
  Json.isWritable_object_iff.mpr
    ⟨(by decide : ["label", "value"].Nodup), by simp [Json.isWritable]⟩

theorem isWritable_item (i : ListItem) : i.toJson.isWritable = true :=
  Json.isWritable_object_iff.mpr
    ⟨(by decide : ["title", "subtitle", "icon"].Nodup), by simp [Json.isWritable]⟩

theorem isWritable_column {c : Column} (h : c.width.isBrief = true) :
    c.toJson.isWritable = true :=
  Json.isWritable_object_iff.mpr
    ⟨(by decide : ["id", "title", "width"].Nodup), by simp [Json.isWritable, h]⟩

/-- The records that a value is or writes are writable if the value is. -/
theorem isWritable_of_records? {v : Json} (hv : v.isWritable = true) {records : List Bag}
    (h : records? v = .ok (some records)) : ∀ r ∈ records, (Json.object r).isWritable = true := by
  obtain ⟨j, hj, hbags⟩ : ∃ j : Json, j.isWritable = true ∧ bags? j = some records := by
    cases v with
    | text s =>
        obtain ⟨found, hdescribes, hfound⟩ | ⟨-, -, hfound⟩ | ⟨count, -, hfound⟩ := records?_text s
        · obtain rfl := Option.some.inj (Except.ok.inj (hfound.symm.trans h))
          exact ⟨_, Json.isWritable_of_parse hdescribes, bags?_eq_some_iff.mpr rfl⟩
        · cases hfound.symm.trans h
        · cases hfound.symm.trans h
    | _ => exact ⟨_, hv, Except.ok.inj h⟩
  rw [bags?_eq_some_iff.mp hbags, Json.isWritable_list_iff] at hj
  exact List.forall_mem_map.mp hj

/-- A width has few enough digits if its number comes from a writable value. -/
theorem isBrief_width {j : Json} (h : j.isWritable = true) : (width j).isBrief = true := by
  have hdefault : defaultWidth.isBrief = true := by decide
  cases j with
  | number n => exact h
  | text s =>
      rw [width]
      cases Numeral.readNumeral? s with
      | none => exact hdefault
      | some x => exact Number.isBrief_settle (rfl : (Number.float x).isBrief = true)
  | _ => exact hdefault

theorem isBrief_width_of_column? {record : Bag} {c : Column}
    (hrecord : (Json.object record).isWritable = true) (h : column? record = some c) :
    c.width.isBrief = true := by
  have hgiven : ((record.get? "width").getD .null).isWritable = true := by
    cases hget : record.get? "width" with
    | none => rfl
    | some j => exact (Json.isWritable_object_iff.mp hrecord).2 _ (Entries.mem_of_get? hget)
  rw [column?] at h
  split at h
  · cases h
  · split at h
    · cases h
    · cases h
      exact isBrief_width hgiven

/-- The columns that are read from a writable value can be written again. -/
theorem isWritable_of_readColumns {v : Json} (hv : v.isWritable = true) {columns : List Column}
    (h : (readColumns v).result = .ok columns) : ∀ c ∈ columns, c.toJson.isWritable = true := by
  obtain ⟨records, hrecords, hmake⟩ | rfl := made_or_standIn rfl h
  · intro c hc
    obtain ⟨record, hrecord, hcolumn⟩ := exists_of_mapM_eq_some hmake c hc
    exact isWritable_column
      (isBrief_width_of_column? (isWritable_of_records? hv hrecords record hrecord) hcolumn)
  · decide

/-- The rows that are read from a writable value can be written again. -/
theorem isWritable_of_readRows {v : Json} (hv : v.isWritable = true) {rows : List Row}
    (h : (readRows v).result = .ok rows) : ∀ row ∈ rows, (Json.object row).isWritable = true := by
  obtain ⟨records, hrecords, hmake⟩ | rfl := made_or_standIn (map_records?_some v) h
  · obtain rfl := Option.some.inj hmake
    exact isWritable_of_records? hv hrecords
  · decide

/-! ## The second reading -/

theorem readChoices_stored (choices : List Choice) :
    (readChoices (stored Choice.toJson choices)).result = .ok choices := by
  have hrecords : records? (stored Choice.toJson choices) =
      .ok (some (choices.map choiceRecord)) :=
    records?_stored (fun _ => rfl) fun c _ => isWritable_choice c
  rw [result_readChoices hrecords, Option.bind_some,
    mapM_map fun c _ => choice?_choiceRecord c, Option.getD_some]

theorem readColumns_stored {columns : List Column} (hid : ∀ c ∈ columns, c.id ≠ "")
    (hwritable : ∀ c ∈ columns, c.toJson.isWritable = true) :
    (readColumns (stored Column.toJson columns)).result = .ok columns := by
  have hrecords : records? (stored Column.toJson columns) =
      .ok (some (columns.map columnRecord)) := records?_stored (fun _ => rfl) hwritable
  rw [result_readColumns hrecords, Option.bind_some,
    mapM_map fun c hc => column?_columnRecord (hid c hc), Option.getD_some]

theorem readItems_stored {items : List ListItem} (htitle : ∀ i ∈ items, i.title ≠ "") :
    (readItems (stored ListItem.toJson items)).result = .ok items := by
  have hrecords : records? (stored ListItem.toJson items) = .ok (some (items.map itemRecord)) :=
    records?_stored (fun _ => rfl) fun i _ => isWritable_item i
  rw [result_readItems hrecords, Option.map_some, mapIdx_itemRecord htitle, Option.getD_some]

theorem readRows_stored {rows : List Row}
    (hwritable : ∀ row ∈ rows, (Json.object row).isWritable = true) :
    (readRows (stored Json.object rows)).result = .ok rows := by
  have hrecords : records? (stored Json.object rows) = .ok (some (rows.map id)) :=
    records?_stored (fun _ => rfl) hwritable
  rw [result_readRows hrecords, List.map_id, Option.getD_some]

/-- A record that names no value and no title, and has a width that is no number. -/
def sparse : Bag :=
  [("id", .number (.int 7)), ("label", .text "x"), ("width", .number (.float .nan))]

end ScreenDesign.Structured
