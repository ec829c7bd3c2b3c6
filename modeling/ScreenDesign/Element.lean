import ScreenDesign.Coercion
import ScreenDesign.Component.Palette
import ScreenDesign.Failure
import ScreenDesign.Record

/-!
# Elements

An element is a component at a place: an id, a type, a position, a size and a
property bag.

`Element.read` reads an element out of a value and finds all its mismatches.  Whole
numbers may be given as truth values, as binary64 numbers without a fraction or as
lenient numerals.  Members with other names are left out.

`Element.record` is the record behind the bag.  A bag that does not read as it is
gets coerced first, and a notice tells of it.
-/

namespace ScreenDesign

/-! ## Values -/

namespace Json

/-- A value read as a text. -/
def asText : Json → Checked String
  | .text s => .ok s
  | _ => Checked.refuse .notText

/-- A binary64 number read as a whole number below `2 ^ 63` in magnitude. -/
def wholeOfFloat (x : Binary64) : Checked Int :=
  if !x.isFinite then Checked.refuse .notFinite
  else
    match x.whole? with
    | none => Checked.refuse .fraction
    | some n => if n.natAbs < Nat.pow 2 63 then .ok n else Checked.refuse .tooLarge

/-- A value read as a whole number. -/
def asWhole : Json → Checked Int
  | .bool b => .ok (if b then 1 else 0)
  | .number (.int n) => .ok n
  | .number (.float x) => wholeOfFloat x
  | .text s =>
      match Numeral.readWhole? s with
      | .ok n => .ok n
      | .error .form => Checked.refuse .notWholeText
      | .error .length => Checked.refuse .tooLarge
  | _ => Checked.refuse .notWhole

/-- A value read as a type. -/
def asType (j : Json) : Checked ComponentType :=
  match ComponentType.ofJson? j with
  | some t => .ok t
  | none => Checked.refuse (.notOneOf (ComponentType.all.map ComponentType.name))

/-- A value read as a property bag. -/
def asBag : Json → Checked Bag
  | .object members => .ok members
  | _ => Checked.refuse .notObject

end Json

namespace Checked

variable {α : Type}

/-- The member of a record, which must be there. -/
def member (members : Bag) (key : String) (read : Json → Checked α) : Checked α :=
  (match members.get? key with
    | some j => read j
    | none => refuse .missing).below (.member key)

/-- The member of a record, or a default. -/
def memberOr (members : Bag) (key : String) (default : α) (read : Json → Checked α) : Checked α :=
  match members.get? key with
  | some j => (read j).below (.member key)
  | none => .ok default

end Checked

/-! ## Elements -/

/-- A component at a place on a screen. -/
structure Element where
  /-- The id, by which the screen knows the element. -/
  id : String
  /-- What kind of component it is. -/
  type : ComponentType
  /-- The left edge. -/
  x : Int
  /-- The top edge. -/
  y : Int
  /-- The width. -/
  width : Int
  /-- The height. -/
  height : Int
  /-- The property bag. -/
  properties : Bag
  deriving DecidableEq

namespace Element

/-- The right edge. -/
def right (e : Element) : Int := e.x + e.width

/-- The bottom edge. -/
def bottom (e : Element) : Int := e.y + e.height

/-- An element as a record. -/
def toJson (e : Element) : Json :=
  .object
    [("id", .text e.id), ("type", .text e.type.name), ("x", .int e.x), ("y", .int e.y),
     ("width", .int e.width), ("height", .int e.height), ("properties", .object e.properties)]

/-- The element that a record describes. -/
def ofMembers (members : Bag) : Checked Element :=
  (Checked.pair (.member members "id" Json.asText) <|
    Checked.pair (.member members "type" Json.asType) <|
    Checked.pair (.member members "x" Json.asWhole) <|
    Checked.pair (.member members "y" Json.asWhole) <|
    Checked.pair (.member members "width" Json.asWhole) <|
    Checked.pair (.member members "height" Json.asWhole)
      (.memberOr members "properties" [] Json.asBag)).map
    fun (id, type, x, y, width, height, properties) =>
      ⟨id, type, x, y, width, height, properties⟩

/-- The element that a value describes. -/
def read : Json → Checked Element
  | .object members => ofMembers members
  | _ => Checked.refuse (.notRecord "DesignElement")

/-! ## The record behind the bag -/

/-- Reads a bag through the fields of a type. -/
def strictRecord (t : ComponentType) (bag : Bag) : Except Failure Record :=
  (Record.read t bag).orFail t.recordName

/-- Reads a value through the fields of a type. -/
def recordOf (t : ComponentType) : Json → Except Failure Record
  | .object bag => strictRecord t bag
  | _ => .error (.mismatched t.recordName [⟨[], .notRecord t.recordName⟩])

/-- The record of an element. -/
def record (e : Element) : Logged Record :=
  match Record.read e.type e.properties with
  | .ok r => pure r
  | .error _ => do
      Logged.note .elements .debug ("Coercing properties of element '" ++ e.id ++ "'")
      let bag ← Logged.ofNoted (e.type.coerceNoted (.object e.properties))
      Logged.ofExcept (strictRecord e.type bag)

end Element

end ScreenDesign
