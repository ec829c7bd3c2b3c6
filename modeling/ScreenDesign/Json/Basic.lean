import ScreenDesign.Entries
import ScreenDesign.Number.Basic

/-!
# JSON values

The values that designs are stored in and that property bags hold.  Whole numbers
and binary64 numbers stay apart, and the members of an object keep their order.
-/

namespace ScreenDesign

/-- A JSON value. -/
inductive Json where
  /-- The value that stands for nothing. -/
  | null
  /-- A truth value. -/
  | bool (b : Bool)
  /-- A number. -/
  | number (n : Number)
  /-- A text. -/
  | text (s : String)
  /-- A list of values. -/
  | list (items : List Json)
  /-- An object: members in order. -/
  | object (members : List (String × Json))

/-- A property bag: the members of an object. -/
abbrev Bag := Entries Json

namespace Json

/-! ## Equality -/

mutual

/-- Whether two values are the same. -/
def same : Json → Json → Bool
  | .null, .null => true
  | .bool a, .bool b => a == b
  | .number a, .number b => a == b
  | .text a, .text b => a == b
  | .list as, .list bs => sameItems as bs
  | .object as, .object bs => sameMembers as bs
  | _, _ => false
termination_by structural a => a

/-- Whether two lists hold the same values. -/
def sameItems : List Json → List Json → Bool
  | [], [] => true
  | a :: as, b :: bs => same a b && sameItems as bs
  | _, _ => false
termination_by structural as => as

/-- Whether two lists of members have the same keys and values. -/
def sameMembers : List (String × Json) → List (String × Json) → Bool
  | [], [] => true
  | (k, a) :: as, (l, b) :: bs => k == l && (same a b && sameMembers as bs)
  | _, _ => false
termination_by structural as => as

end

mutual

/-- Two values are the same exactly if they are equal. -/
theorem same_iff : (a b : Json) → (same a b = true ↔ a = b)
  | .null, b => by cases b <;> simp [same]
  | .bool a, b => by cases b <;> simp [same]
  | .number a, b => by cases b <;> simp [same]
  | .text a, b => by cases b <;> simp [same]
  | .list as, b => by
      cases b with
      | list bs => simpa [same] using sameItems_iff as bs
      | _ => simp [same]
  | .object as, b => by
      cases b with
      | object bs => simpa [same] using sameMembers_iff as bs
      | _ => simp [same]

/-- Two lists hold the same values exactly if they are equal. -/
theorem sameItems_iff : (as bs : List Json) → (sameItems as bs = true ↔ as = bs)
  | [], bs => by cases bs <;> simp [sameItems]
  | a :: as, bs => by
      cases bs with
      | nil => simp [sameItems]
      | cons b bs => simp [sameItems, same_iff a b, sameItems_iff as bs]

/-- Two lists have the same members exactly if they are equal. -/
theorem sameMembers_iff :
    (as bs : List (String × Json)) → (sameMembers as bs = true ↔ as = bs)
  | [], bs => by cases bs <;> simp [sameMembers]
  | (k, a) :: as, bs => by
      cases bs with
      | nil => simp [sameMembers]
      | cons p bs =>
          obtain ⟨l, b⟩ := p
          simp [sameMembers, same_iff a b, sameMembers_iff as bs, and_assoc]

end

instance : DecidableEq Json := fun a b => decidable_of_iff _ (same_iff a b)

/-! ## Values -/

/-- A whole number as a value. -/
def int (n : Int) : Json := .number (.int n)

/-- A natural number as a value. -/
def nat (n : Nat) : Json := .int n

/-- A binary64 number as a value. -/
def float (x : Binary64) : Json := .number (.float x)

/-- The member of an object.  Other values have no members. -/
def get? : Json → String → Option Json
  | .object members, key => Entries.get? members key
  | _, _ => none

/-- The member of an object, or null. -/
def getD (j : Json) (key : String) : Json := (j.get? key).getD .null

/-- The name of the kind of a value. -/
def kindName : Json → String
  | .null => "NoneType"
  | .bool _ => "bool"
  | .number (.int _) => "int"
  | .number (.float _) => "float"
  | .text _ => "str"
  | .list _ => "list"
  | .object _ => "dict"

/-- Whether a value can be a key. -/
def isKey : Json → Bool
  | .list _ => false
  | .object _ => false
  | _ => true

/-- Whether a value counts as true: it is neither null, nor false, nor zero, nor
empty. -/
def isTruthy : Json → Bool
  | .null => false
  | .bool b => b
  | .number n => !n.isZero
  | .text s => !s.isEmpty
  | .list items => !items.isEmpty
  | .object members => !members.isEmpty

mutual

/-- The value as it is stored: numbers that are not finite become null. -/
def stored : Json → Json
  | .number n => if n.isFinite then .number n else .null
  | .list items => .list (storedItems items)
  | .object members => .object (storedMembers members)
  | j => j
termination_by structural j => j

/-- The items of a list as they are stored. -/
def storedItems : List Json → List Json
  | [] => []
  | j :: js => stored j :: storedItems js
termination_by structural js => js

/-- The members of an object as they are stored. -/
def storedMembers : List (String × Json) → List (String × Json)
  | [] => []
  | (k, j) :: ms => (k, stored j) :: storedMembers ms
termination_by structural ms => ms

end

end Json

end ScreenDesign
