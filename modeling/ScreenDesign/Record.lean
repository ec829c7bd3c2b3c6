import ScreenDesign.Color
import ScreenDesign.Component.Field
import ScreenDesign.Mismatch
import ScreenDesign.Number.Lenient

/-!
# Records

A record is a property bag read through the fields of a type.  Every field has a
value of its kind, and the members of the bag that belong to no field are kept
behind them.

A field is read from its key, or else from its second name, or else it has its
default.  Reading is stricter than coercion in some ways and looser in others.  A
text must be a text, and a truth value may be one of twelve words.  A number may be
a truth value or a lenient numeral, and it may be infinite.  `read` finds every
mismatch, in the order of the fields.
-/

namespace ScreenDesign

/-! ## Values -/

namespace FieldValue

/-- The words for true, in lower case. -/
def trueWords : List String := ["1", "on", "t", "true", "y", "yes"]

/-- The words for false, in lower case. -/
def falseWords : List String := ["0", "off", "f", "false", "n", "no"]

def readText : Json → Checked FieldValue
  | .text s => .ok (.text s)
  | _ => Checked.refuse .notText

/-- A whole number read as a truth value.  A number beyond the bounds of sixty-four
bits is no truth value at all. -/
def flagOfInt (low high n : Int) : Checked FieldValue :=
  if n = 0 then .ok (.flag false)
  else if n = 1 then .ok (.flag true)
  else Checked.refuse (if low ≤ n ∧ n ≤ high then .unclearTruth else .notTruth)

/-- One more than the largest whole number of sixty-four bits. -/
def wordBound : Int := Int.ofNat (Nat.pow 2 63)

/-- A number read as a truth value.  The least number of sixty-four bits belongs to
the bounds of whole numbers, but not to those of binary64 numbers. -/
def flagOfNumber : Number → Checked FieldValue
  | .int n => flagOfInt (-wordBound) (wordBound - 1) n
  | .float x =>
      match x.whole? with
      | some n => flagOfInt (-wordBound + 1) (wordBound - 1) n
      | none => Checked.refuse .notTruth

/-- A value read as a truth value. -/
def readFlag : Json → Checked FieldValue
  | .bool b => .ok (.flag b)
  | .number n => flagOfNumber n
  | .text s =>
      let word := Text.lower s
      if word ∈ trueWords then .ok (.flag true)
      else if word ∈ falseWords then .ok (.flag false)
      else Checked.refuse .unclearTruth
  | _ => Checked.refuse .notTruth

/-- Neither form of a number could be read. -/
def refuseNumber (whole any : Cause) : Checked FieldValue :=
  .error [⟨[.form "int"], whole⟩, ⟨[.form "float"], any⟩]

/-- A value read as a number. -/
def readNumber : Json → Checked FieldValue
  | .number n => .ok (.number n)
  | .bool b => .ok (.number (.int (if b then 1 else 0)))
  | .text s =>
      match Numeral.readWhole? s with
      | .ok n => .ok (.number (.int n))
      | .error why =>
          match Numeral.readLenient? s with
          | some x => .ok (.number (.float x))
          | none =>
              refuseNumber (if why = .length then .tooLarge else .notWholeText) .notNumberText
  | _ => refuseNumber .notWhole .notNumber

/-- A value read as a field of a kind. -/
def read : FieldKind → Json → Checked FieldValue
  | .text, j => readText j
  | .structured, j => readText j
  | .number, j => readNumber j
  | .boolean, j => readFlag j

end FieldValue

/-! ## Fields in a bag -/

namespace Field

/-- The name under which a bag gives the field, and the value. -/
def given? (f : Field) (bag : Bag) : Option (String × Json) :=
  match bag.get? f.key with
  | some j => some (f.key, j)
  | none => (bag.get? f.name).map fun j => (f.name, j)

/-- The value of the field in a bag. -/
def read (f : Field) (bag : Bag) : Checked FieldValue :=
  match f.given? bag with
  | some (key, j) => (FieldValue.read f.kind j).below (.member key)
  | none => .ok f.default

end Field

/-! ## Records -/

/-- A property bag read through the fields of a type. -/
structure Record where
  /-- The fields with their values. -/
  entries : List (Field × FieldValue)
  /-- The members that belong to no field. -/
  extras : Bag
  deriving DecidableEq

namespace Record

/-- The record that a bag holds, or all its mismatches. -/
def read (t : ComponentType) (bag : Bag) : Checked Record :=
  let taken := t.fields.filterMap fun f => (f.given? bag).map Prod.fst
  (Checked.all (t.fields.map fun f => (f.read bag).map fun v => (f, v))).map fun entries =>
    ⟨entries, bag.filter fun member => !taken.contains member.1⟩

/-- The bag that a record is stored as. -/
def toBag (r : Record) : Bag := r.entries.map (fun (f, v) => (f.key, v.toJson)) ++ r.extras

/-- The value of the field of a key. -/
def value? (r : Record) (key : String) : Option FieldValue :=
  (r.entries.find? fun e => e.1.key = key).map Prod.snd

/-- The text of a field. -/
def text (r : Record) (key : String) : String :=
  match r.value? key with
  | some (.text s) => s
  | _ => ""

/-- The number of a field. -/
def number (r : Record) (key : String) : Number :=
  match r.value? key with
  | some (.number n) => n
  | _ => .int 0

/-- The truth value of a field. -/
def flag (r : Record) (key : String) : Bool :=
  match r.value? key with
  | some (.flag b) => b
  | _ => false

/-- Whether a truth value is given under a key, in a field or beside the
fields. -/
def isSet (r : Record) (key : String) : Bool :=
  match r.value? key with
  | some v => v.toJson.isTruthy
  | none => ((Entries.get? r.extras key).getD .null).isTruthy

/-- The color that a value stands for in a field. -/
def colorOf (f : Field) (v : FieldValue) : Color :=
  Color.ofProperty ((Color.ofJson? f.default.toJson).getD .black) v.toJson

/-- The color of a field.  A blank one is the field's default. -/
def color (r : Record) (key : String) : Color :=
  ((r.entries.find? fun e => e.1.key = key).map fun (f, v) => colorOf f v).getD .black

/-- The color of the field with a second name. -/
def colorNamed? (r : Record) (name : String) : Option Color :=
  (r.entries.find? fun e => e.1.name = name).map fun (f, v) => colorOf f v

end Record

end ScreenDesign
