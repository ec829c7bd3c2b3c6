/-!
# Mismatches

Reading a record out of a value finds all its faults at once.  A mismatch is one
of them: the path to the offending value and the cause.  `Checked` is a value that
was read, or the mismatches that were found instead.  `Checked.pair` reads two
values and keeps the mismatches of both, those of the left one first.
-/

namespace ScreenDesign

/-- One step of the path into a value. -/
inductive Step where
  /-- Into the member of a name. -/
  | member (name : String)
  /-- Into the item of an index. -/
  | item (index : Nat)
  /-- Into one of the forms that a number may have. -/
  | form (name : String)
  deriving DecidableEq

def Step.text : Step → String
  | .member name => name
  | .item index => index.repr
  | .form name => name

/-- What is wrong with a value. -/
inductive Cause where
  /-- There is no value. -/
  | missing
  /-- It is no text. -/
  | notText
  /-- It is a number with a fraction where a whole one must stand. -/
  | fraction
  /-- It is not finite. -/
  | notFinite
  /-- It is a whole number beyond what is read. -/
  | tooLarge
  /-- It is a text that writes no whole number. -/
  | notWholeText
  /-- It is no whole number. -/
  | notWhole
  /-- It is a text that writes no number. -/
  | notNumberText
  /-- It is no number. -/
  | notNumber
  /-- It is a value that could be a truth value and is none. -/
  | unclearTruth
  /-- It is no truth value. -/
  | notTruth
  /-- It is none of the given names. -/
  | notOneOf (names : List String)
  /-- It is no object. -/
  | notObject
  /-- It is no list. -/
  | notList
  /-- It is no object that a record of a name could be read from. -/
  | notRecord (name : String)
  deriving DecidableEq

namespace Cause

/-- The short name of a cause. -/
def code : Cause → String
  | .missing => "missing"
  | .notText => "string_type"
  | .fraction => "int_from_float"
  | .notFinite => "finite_number"
  | .tooLarge => "int_parsing_size"
  | .notWholeText => "int_parsing"
  | .notWhole => "int_type"
  | .notNumberText => "float_parsing"
  | .notNumber => "float_type"
  | .unclearTruth => "bool_parsing"
  | .notTruth => "bool_type"
  | .notOneOf _ => "enum"
  | .notObject => "dict_type"
  | .notList => "list_type"
  | .notRecord _ => "model_type"

/-- Names in single quotes, with commas between them and `or` before the last
one. -/
def alternatives : List String → String
  | [] => ""
  | [a] => "'" ++ a ++ "'"
  | [a, b] => "'" ++ a ++ "' or '" ++ b ++ "'"
  | a :: b :: c :: rest => "'" ++ a ++ "', " ++ alternatives (b :: c :: rest)

/-- What a cause says. -/
def wording : Cause → String
  | .missing => "Field required"
  | .notText => "Input should be a valid string"
  | .fraction => "Input should be a valid integer, got a number with a fractional part"
  | .notFinite => "Input should be a finite number"
  | .tooLarge => "Unable to parse input string as an integer, exceeded maximum size"
  | .notWholeText => "Input should be a valid integer, unable to parse string as an integer"
  | .notWhole => "Input should be a valid integer"
  | .notNumberText => "Input should be a valid number, unable to parse string as a number"
  | .notNumber => "Input should be a valid number"
  | .unclearTruth => "Input should be a valid boolean, unable to interpret input"
  | .notTruth => "Input should be a valid boolean"
  | .notOneOf names => "Input should be " ++ alternatives names
  | .notObject => "Input should be a valid dictionary"
  | .notList => "Input should be a valid list"
  | .notRecord name => "Input should be a valid dictionary or instance of " ++ name

end Cause

/-- A fault of a value: where it is and what it is. -/
structure Mismatch where
  /-- The path to the value. -/
  path : List Step
  /-- What is wrong with it. -/
  cause : Cause
  deriving DecidableEq

/-- A mismatch on one line. -/
def Mismatch.line (m : Mismatch) : String :=
  ".".intercalate (m.path.map Step.text) ++ " [" ++ m.cause.code ++ "] " ++ m.cause.wording

/-- A value that was read, or all that is wrong with it. -/
abbrev Checked (α : Type) := Except (List Mismatch) α

namespace Checked

variable {α β : Type}

/-- A single fault at the value itself. -/
def refuse (cause : Cause) : Checked α := .error [⟨[], cause⟩]

/-- The faults of a value moved below a step. -/
def below (step : Step) : Checked α → Checked α
  | .ok a => .ok a
  | .error ms => .error (ms.map fun m => { m with path := step :: m.path })

/-- Two values, or the faults of both. -/
def pair : Checked α → Checked β → Checked (α × β)
  | .ok a, .ok b => .ok (a, b)
  | .ok _, .error ms => .error ms
  | .error ms, .ok _ => .error ms
  | .error ms, .error ns => .error (ms ++ ns)

/-- All values of a list read one by one, or the faults of all. -/
def all : List (Checked α) → Checked (List α)
  | [] => .ok []
  | x :: xs => (pair x (all xs)).map fun (a, as) => a :: as

/-- Both values were read exactly if the pair was. -/
theorem pair_eq_ok_iff {x : Checked α} {y : Checked β} {a : α} {b : β} :
    pair x y = .ok (a, b) ↔ x = .ok a ∧ y = .ok b := by
  cases x <;> cases y <;> simp [pair]

end Checked

end ScreenDesign
