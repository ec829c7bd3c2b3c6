import ScreenDesign.Component.Palette
import ScreenDesign.Failure

/-!
# Structured values

Some properties hold a list of records: the choices of a dropdown, the columns and
rows of a table, the items of a list.  Such a value is a list of objects, or the
JSON text of one.

Reading is forgiving.  A gap in a record is filled from its neighbours or from its
position.  A value of any other shape, and a record whose gap cannot be filled, are
replaced by a fixed example, and a notice tells of it.  Only a whole number with too
many digits in the text makes reading fail.
-/

namespace ScreenDesign

/-! ## Records -/

/-- A column of a table. -/
structure Column where
  /-- The key of its cells in a row. -/
  id : String
  /-- What stands above it. -/
  title : String
  /-- How wide it is. -/
  width : Number
  deriving DecidableEq

/-- A row of a table: its cells under the ids of their columns. -/
abbrev Row := Bag

structure Table where
  columns : List Column
  rows : List Row
  deriving DecidableEq

structure ListItem where
  title : String
  subtitle : String
  icon : String
  deriving DecidableEq

/-- A column as a record. -/
def Column.toJson (c : Column) : Json :=
  .object [("id", .text c.id), ("title", .text c.title), ("width", .number c.width)]

/-- An item as a record. -/
def ListItem.toJson (i : ListItem) : Json :=
  .object [("title", .text i.title), ("subtitle", .text i.subtitle), ("icon", .text i.icon)]

/-- The text of a row's cell.  A missing cell is blank. -/
def Row.cell (row : Row) (id : String) : String := ((Entries.get? row id).getD .null).plain

namespace Structured

/-! ## Shape -/

/-- The members of an object. -/
def bag? : Json → Option Bag
  | .object members => some members
  | _ => none

/-- The objects of a list that holds nothing else. -/
def bags? : Json → Option (List Bag)
  | .list items => items.mapM bag?
  | _ => none

/-- The records that a value is or writes, if it has the shape of a list of
records. -/
def records? : Json → Except Failure (Option (List Bag))
  | .text s =>
      match Json.parse s with
      | .ok j => .ok (bags? j)
      | .error (.malformed _ _ _ _) => .ok none
      | .error (.tooManyDigits count) => .error (.unreadable (.tooManyDigits count))
  | j => .ok (bags? j)

/-! ## Reading a record -/

/-- The member of a record, unless it is null. -/
def given? (record : Bag) (key : String) : Option Json :=
  (record.get? key).filter (· ≠ .null)

/-- The choice that a record describes.  A label and a value stand in for each
other. -/
def choice? (record : Bag) : Option Choice :=
  match given? record "label", given? record "value" with
  | none, none => none
  | some label, none => some ⟨label.plain, label.plain⟩
  | none, some value => some ⟨value.plain, value.plain⟩
  | some label, some value => some ⟨label.plain, value.plain⟩

/-- The width of a column that gives none. -/
def defaultWidth : Number := .int 120

/-- The width that a value stands for. -/
def width : Json → Number
  | .number n => n
  | .text s => ((Numeral.readNumeral? s).map fun x => (Number.float x).settle).getD defaultWidth
  | _ => defaultWidth

/-- The column that a record describes.  Its id stands in for its title. -/
def column? (record : Bag) : Option Column :=
  match given? record "id" with
  | none => none
  | some id =>
      if id = .text "" then none
      else some
        ⟨id.plain, ((given? record "title").getD id).plain,
          width ((record.get? "width").getD .null)⟩

/-- The item that a record describes, at a position.  A missing title is made of
the position, counted from one. -/
def item (position : Nat) (record : Bag) : ListItem :=
  let text (key : String) : String := ((record.get? key).getD .null).plain
  let title := (record.get? "title").getD .null
  ⟨if title.isTruthy then title.plain else "Item " ++ (position + 1).repr,
    text "subtitle", text "icon"⟩

/-! ## Examples that stand in -/

/-- The choices that stand in for malformed ones. -/
def exampleChoices : List Choice := [⟨"Option 1", "option1"⟩, ⟨"Option 2", "option2"⟩]

/-- The columns that stand in for malformed ones. -/
def exampleColumns : List Column :=
  [⟨"name", "Name", .int 120⟩, ⟨"email", "Email", .int 180⟩]

/-- The rows that stand in for malformed ones. -/
def exampleRows : List Row :=
  [[("name", .text "John Doe"), ("email", .text "john@example.com")],
   [("name", .text "Jane Smith"), ("email", .text "jane@example.com")]]

/-- The table that stands in for a malformed one. -/
def exampleTable : Table := ⟨exampleColumns, exampleRows⟩

/-- The items that stand in for malformed ones. -/
def exampleItems : List ListItem :=
  [⟨"Item 1", "Description 1", "star"⟩, ⟨"Item 2", "Description 2", "favorite"⟩]

/-! ## Reading a value -/

/-- The choices of a value, if it has any. -/
def choices? (j : Json) : Except Failure (Option (List Choice)) :=
  (records? j).map fun found => found.bind (List.mapM choice?)

/-- The columns of a value, if it has any. -/
def columns? (j : Json) : Except Failure (Option (List Column)) :=
  (records? j).map fun found => found.bind (List.mapM column?)

/-- The items of a value, if it has any. -/
def items? (j : Json) : Except Failure (Option (List ListItem)) :=
  (records? j).map fun found => found.map fun records => records.mapIdx item

/-- The notice of a malformed value. -/
def malformed (what : String) (j : Json) : Logged Unit :=
  Logged.note .structured .debug ("Malformed " ++ what ++ ", using fallback: " ++ j.literal)

/-- What was read, or the example with a notice. -/
def orExample {α : Type} (what : String) (standIn : α) (j : Json)
    (found : Except Failure (Option α)) : Logged α := do
  match ← Logged.ofExcept found with
  | some a => pure a
  | none =>
      malformed what j
      pure standIn

/-- The choices that a value stands for. -/
def readChoices (j : Json) : Logged (List Choice) :=
  orExample "options" exampleChoices j (choices? j)

/-- The columns that a value stands for. -/
def readColumns (j : Json) : Logged (List Column) :=
  orExample "columns" exampleColumns j (columns? j)

/-- The rows that a value stands for. -/
def readRows (j : Json) : Logged (List Row) :=
  orExample "rows" exampleRows j (records? j)

/-- The items that a value stands for. -/
def readItems (j : Json) : Logged (List ListItem) :=
  orExample "list data" exampleItems j (items? j)

/-- The table that two values stand for.  If either is malformed, both are
replaced, so that the rows fit the columns. -/
def readTable (columns rows : Json) : Logged Table := do
  let columns ← Logged.ofExcept (columns? columns)
  let rows ← Logged.ofExcept (records? rows)
  match columns, rows with
  | some columns, some rows => pure ⟨columns, rows⟩
  | _, _ =>
      Logged.note .structured .debug "Malformed table data, using fallback table"
      pure exampleTable

end Structured

end ScreenDesign
