import ScreenDesign.Json.Literal
import ScreenDesign.Json.Reader
import ScreenDesign.Mismatch
import ScreenDesign.Notice

/-!
# Failures

The ways in which work on a design can end without a result.  Each is a cause, and
`Failure.message` has the wording of every one.  `Logged` is a computation that
leaves notices and may fail.  The notices left before a failure are kept.
-/

namespace ScreenDesign

/-- Why a file could not be used. -/
inductive FileFault where
  /-- There is no such file or directory. -/
  | absent
  /-- It is a directory. -/
  | isDirectory
  /-- A part of the path is no directory. -/
  | notDirectory
  /-- There is something else in the place of a directory. -/
  | exists
  /-- Something else, as the system says it. -/
  | other (message : String)
  deriving DecidableEq

/-- Why there is no result. -/
inductive Failure where
  /-- A text is no JSON. -/
  | unreadable (error : Json.ReadError)
  /-- A whole number has too many digits to be written. -/
  | tooLongToWrite
  /-- A whole number is too large for a binary64 number. -/
  | tooLarge
  /-- A number that is not finite was to be rounded. -/
  | notRounded (isInfinite : Bool)
  /-- A value that is no number was to be rounded. -/
  | noRounding (kind : String)
  /-- A text is no numeral. -/
  | noNumeral (text : String)
  /-- A value that is neither a text nor a number was to be read as a number. -/
  | noNumber (kind : String)
  /-- A value does not match the record it was to be read as. -/
  | mismatched (record : String) (faults : List Mismatch)
  /-- A value is no list of screens. -/
  | notScreens
  /-- A value names no component type. -/
  | unknownType (value : Json)
  /-- A table has no entry under a key. -/
  | noEntry (key : Json)
  /-- A value that cannot be a key was to be looked up. -/
  | noKey (kind : String)
  /-- A value other than a text was to be trimmed. -/
  | noText (kind : String)
  /-- A path starts at a home directory that is not known. -/
  | noHome
  /-- Nothing of the name is there. -/
  | notFound (what name : String)
  /-- A file could not be used. -/
  | file (fault : FileFault) (path : String)
  deriving DecidableEq

namespace FileFault

/-- The wording of a fault, without the path. -/
def wording : FileFault → String
  | .absent => "[Errno 2] No such file or directory"
  | .isDirectory => "[Errno 21] Is a directory"
  | .notDirectory => "[Errno 20] Not a directory"
  | .exists => "[Errno 17] File exists"
  | .other message => message

end FileFault

namespace Failure

/-- The heading of a report on a record. -/
def heading (record : String) (count : Nat) : String :=
  count.repr ++ (if count = 1 then " validation error for " else " validation errors for ") ++
    record

/-- What a failure says. -/
def message : Failure → String
  | .unreadable error => error.message
  | .tooLongToWrite =>
      "Exceeds the limit (4300 digits) for integer string conversion; " ++
        "use sys.set_int_max_str_digits() to increase the limit"
  | .tooLarge => "int too large to convert to float"
  | .notRounded isInfinite =>
      if isInfinite then "cannot convert float infinity to integer"
      else "cannot convert float NaN to integer"
  | .noRounding kind => "type " ++ kind ++ " doesn't define __round__ method"
  | .noNumeral text => "could not convert string to float: " ++ (Json.text text).literal
  | .noNumber kind => "float() argument must be a string or a real number, not '" ++ kind ++ "'"
  | .mismatched record faults => heading record faults.length
  | .notScreens => "Expected a list of screens or \x7b'screens': [...]\x7d"
  | .unknownType value => value.literal ++ " is not a valid ComponentType"
  | .noEntry key => key.literal
  | .noKey kind => "unhashable type: '" ++ kind ++ "'"
  | .noText kind => "'" ++ kind ++ "' object has no attribute 'strip'"
  | .noHome => "Could not determine home directory."
  | .notFound what name => "no " ++ what ++ " " ++ name
  | .file fault path => fault.wording ++ ": " ++ (Json.text path).literal

/-- The lines of a report on a record.  Other failures have one line. -/
def report : Failure → List String
  | .mismatched _ faults => faults.map Mismatch.line
  | f => [f.message]

end Failure

/-- A computation that leaves notices and may fail. -/
abbrev Logged := ExceptT Failure Noted

namespace Logged

variable {α : Type}

/-- The result of a computation, without its notices. -/
def result (x : Logged α) : Except Failure α := x.run.value

/-- The notices of a computation, also if it failed. -/
def notices (x : Logged α) : List Notice := x.run.notices

/-- A computation that only leaves a notice. -/
def note (source : Source) (level : Level) (message : String) : Logged Unit :=
  ExceptT.lift (Noted.note source level message)

/-- A result without notices. -/
def ofExcept (x : Except Failure α) : Logged α := ExceptT.mk (pure x)

/-- A computation that cannot fail. -/
def ofNoted (x : Noted α) : Logged α := ExceptT.lift x

end Logged

/-- A value that was checked as a record of a name. -/
def Checked.orFail {α : Type} (record : String) : Checked α → Except Failure α
  | .ok a => .ok a
  | .error faults => .error (.mismatched record faults)

end ScreenDesign
