import ScreenDesign.Content.Reading

/-!
# Content without its texts

`Content.masked` blots out every text that a content shows and keeps only whether it
is empty.  Two contents with the same mask differ in their texts alone: they have the
same flags, numbers and colors, as many choices, items, columns and rows, and the same
texts are empty.
-/

namespace ScreenDesign

/-- A text with nothing left of it but whether it is empty. -/
def Text.masked (s : String) : String := if s.isEmpty then "" else "-"

@[simp] theorem Text.masked_eq_empty {s : String} : Text.masked s = "" ↔ s = "" := by
  rw [Text.masked]
  split
  case isTrue h => simpa using h
  case isFalse h => simpa using h

/-! ## Parts -/

/-- A control with the name of its group masked. -/
def Control.masked : Control → Control
  | .radio on disabled active group => .radio on disabled active (Text.masked group)
  | c => c

def Tile.masked (t : Tile) : Tile :=
  ⟨Text.masked t.title, Text.masked t.subtitle, Text.masked t.icon⟩

def Choice.masked (c : Choice) : Choice := ⟨Text.masked c.label, Text.masked c.value⟩

/-- A table with as many columns and rows, and nothing in them. -/
def Table.masked (t : Table) : Table :=
  ⟨t.columns.map fun c => ⟨"", "", c.width⟩, t.rows.map fun _ => []⟩

/-! ## Contents

Each form with its texts masked and the rest as it is. -/

namespace Content

def Button.masked (b : Button) : Button :=
  { b with text := Text.masked b.text, target := b.target.map Text.masked }

def TextField.masked (f : TextField) : TextField :=
  ⟨Text.masked f.label, Text.masked f.hint, f.icon.map Text.masked, f.complaint.map Text.masked⟩

def Card.masked (c : Card) : Card :=
  { c with
    title := Text.masked c.title, subtitle := Text.masked c.subtitle, body := Text.masked c.body }

def Listing.masked (l : Listing) : Listing := { l with tiles := l.tiles.map Tile.masked }

def Glyph.masked (g : Glyph) : Glyph := { g with icon := Text.masked g.icon }

def Choosable.masked (c : Choosable) : Choosable :=
  { c with control := c.control.masked, label := Text.masked c.label }

def Labeled.masked (l : Labeled) : Labeled :=
  { l with control := l.control.masked, label := Text.masked l.label }

def Composer.masked (c : Composer) : Composer :=
  { c with placeholder := Text.masked c.placeholder, buttonText := Text.masked c.buttonText }

def Message.masked (m : Message) : Message := { m with text := Text.masked m.text }

def Dropdown.masked (d : Dropdown) : Dropdown :=
  { d with
    label := Text.masked d.label, placeholder := Text.masked d.placeholder
    choices := d.choices.map Choice.masked, value := Text.masked d.value }

def Input.masked (i : Input) : Input :=
  { i with
    label := Text.masked i.label, placeholder := Text.masked i.placeholder
    value := Text.masked i.value, kind := Text.masked i.kind }

def Grid.masked (g : Grid) : Grid :=
  { g with title := Text.masked g.title, table := g.table.masked }

/-- A content with its texts masked. -/
def masked : Content → Content
  | .button b => .button b.masked
  | .textField f => .textField f.masked
  | .card c => .card c.masked
  | .list l => .list l.masked
  | .icon g => .icon g.masked
  | .container c => .container c
  | .flex f => .flex f
  | .stack s => .stack s
  | .choosable c => .choosable c.masked
  | .control c => .control c.masked
  | .labeled l => .labeled l.masked
  | .composer c => .composer c.masked
  | .message m => .message m.masked
  | .dropdown d => .dropdown d.masked
  | .input i => .input i.masked
  | .grid g => .grid g.masked

end Content

end ScreenDesign
