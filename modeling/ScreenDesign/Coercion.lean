import ScreenDesign.Component.Field
import ScreenDesign.Json.Literal
import ScreenDesign.Notice

/-!
# Coercion

A property bag from outside is merged over the defaults of a type.  Each value is
judged by the kind of its key.

* A number may be given as a finite number or as a numeral.  A whole one becomes a
  whole number.
* A truth value may be given as `0`, `1` or one of six words.
* A text may be given as a finite number.
* A structured text may be given as a list.

A value that its kind cannot take leaves the default in place.  A key without a
field is kept if its value is a text, a truth value or a finite number.

`judge` says what happens to one member, `coerce` builds the bag, and
`coercionNotices` are the notices left on the way.
-/

namespace ScreenDesign

namespace Json

/-! ## Values of a kind -/

/-- The finite number that a value is or writes, as it stands. -/
def finiteNumber? : Json → Option Number
  | .number n => if n.isFinite then some n else none
  | .text s =>
      match Numeral.readNumeral? (Text.trim s) with
      | some x => if x.isFinite then some (.float x) else none
      | none => none
  | _ => none

/-- The finite number that a value is or writes, a whole one as a whole number. -/
def toNumber? (j : Json) : Option Number := j.finiteNumber?.map Number.settle

def trueWords : List String := ["true", "1", "yes"]

def falseWords : List String := ["false", "0", "no"]

/-- The truth value that a value stands for. -/
def toFlag? : Json → Option Bool
  | .bool b => some b
  | .number n =>
      if n.settle = .int 0 then some false
      else if n.settle = .int 1 then some true
      else none
  | .text s =>
      let word := Text.lower (Text.trim s)
      if word ∈ trueWords then some true
      else if word ∈ falseWords then some false
      else none
  | _ => none

/-- The text that a value is, or the text of a number. -/
def toText? : Json → Option String
  | .text s => some s
  | .number n => (Json.number n).toNumber?.map Number.text
  | _ => none

/-- The structured text that a value is, or the text of a list. -/
def toStructured? : Json → Option String
  | .text s => some s
  | .list items => some (Json.list items).compact
  | _ => none

/-- Whether a value may stand under a key without a field. -/
def isScalar : Json → Bool
  | .text _ => true
  | .bool _ => true
  | .number n => n.isFinite
  | _ => false

end Json

/-- The value that a field of a kind takes from a given one. -/
def FieldKind.take? : FieldKind → Json → Option FieldValue
  | .text, j => j.toText?.map .text
  | .number, j => j.toNumber?.map .number
  | .boolean, j => j.toFlag?.map .flag
  | .structured, j => j.toStructured?.map .text

/-! ## Bags -/

/-- What happens to a member of a bag. -/
inductive Verdict where
  /-- Its key gets a value. -/
  | keep (value : Json)
  /-- It counts as not given. -/
  | blank
  /-- It has no field and no simple value. -/
  | drop
  /-- Its value is not of the kind of its field. -/
  | unfit (kind : FieldKind)
  deriving DecidableEq

namespace ComponentType

/-- The verdict on a member of a bag of the type. -/
def judge (t : ComponentType) (key : String) (value : Json) : Verdict :=
  if value = .null then .blank
  else
    match t.kind? key with
    | none => if value.isScalar then .keep value else .drop
    | some kind =>
        match kind.take? value with
        | some taken => .keep taken.toJson
        | none => .unfit kind

/-- The bag with a judged member merged into it. -/
def mergeMember (t : ComponentType) (bag : Bag) (member : String × Json) : Bag :=
  match t.judge member.1 member.2 with
  | .keep value => bag.insert member.1 value
  | _ => bag

/-- The members of an object merged over the defaults of the type.  Any other
value counts as an object without members. -/
def coerce (t : ComponentType) : Json → Bag
  | .object members => members.foldl t.mergeMember t.defaults
  | _ => t.defaults

/-- The notice that a member leaves. -/
def memberNotice? (t : ComponentType) (member : String × Json) : Option Notice :=
  match t.judge member.1 member.2 with
  | .drop =>
      some ⟨.sanitizer, .debug, "Dropping non-scalar extra property '" ++ member.1 ++ "'"⟩
  | .unfit kind =>
      some ⟨.sanitizer, .debug, "Property '" ++ member.1 ++ "' of " ++ t.name ++ " is not " ++
        kind.name ++ ": " ++ member.2.literal ++ ", using default"⟩
  | _ => none

/-- The notices that the members of an object leave. -/
def coercionNotices (t : ComponentType) : Json → List Notice
  | .object members => members.filterMap t.memberNotice?
  | _ => []

/-- A coerced bag with its notices. -/
def coerceNoted (t : ComponentType) (j : Json) : Noted Bag := ⟨t.coerce j, t.coercionNotices j⟩

end ComponentType

end ScreenDesign
