import ScreenDesign.Dart.App
import ScreenDesign.Path
import ScreenDesign.Sanitize

/-!
# Settings

A setting is a value that a user may give in a variable of the environment.  It has
a default and a kind.  A value given on the command line wins over the variable, and
a variable that does not convert counts as not set, with a notice.

`Threshold` is the rank that notices need to be shown.
-/

namespace ScreenDesign

inductive Setting where
  | logLevel
  | darkMode
  | appTitle
  | idStem
  | outputDirectory
  deriving DecidableEq

/-- What surrounds a run of the program. -/
structure Environment where
  /-- The variables. -/
  bindings : Entries String
  /-- The directory that relative paths start from. -/
  workingDirectory : Path

namespace Environment

/-- The value of a variable. -/
def get? (e : Environment) (variableName : String) : Option String :=
  Entries.get? e.bindings variableName

/-- The home directory of the user. -/
def home (e : Environment) : Option String := e.get? "HOME"

end Environment

namespace Setting

/-! ## Declarations -/

/-- The kind of value that a setting has. -/
inductive Kind where
  | text
  | truth
  | path
  deriving DecidableEq

def Kind.name : Kind → String
  | .text => "str"
  | .truth => "bool"
  | .path => "Path"

/-- The value of a setting. -/
inductive Value where
  | text (s : String)
  | truth (b : Bool)
  | path (p : Path)
  | unset
  deriving DecidableEq

/-- A value as a record shows it. -/
def Value.toJson : Value → Json
  | .text s => .text s
  | .truth b => .bool b
  | .path p => .text p.text
  | .unset => .null

/-- The settings in order. -/
def all : List Setting := [.logLevel, .darkMode, .appTitle, .idStem, .outputDirectory]

/-- The name of a setting. -/
def name : Setting → String
  | .logLevel => "LOG_LEVEL"
  | .darkMode => "DARK_MODE"
  | .appTitle => "APP_TITLE"
  | .idStem => "ID_PREFIX"
  | .outputDirectory => "OUTPUT_DIR"

/-- The variable that gives a setting. -/
def variableName (s : Setting) : String := "SCREENFORGE_" ++ s.name

/-- The kind of a setting. -/
def kind : Setting → Kind
  | .logLevel => .text
  | .darkMode => .truth
  | .appTitle => .text
  | .idStem => .text
  | .outputDirectory => .path

/-- The value of a setting that is not given. -/
def default : Setting → Value
  | .logLevel => .text "INFO"
  | .darkMode => .truth false
  | .appTitle => .text Dart.defaultTitle
  | .idStem => .text Sanitize.defaultStem
  | .outputDirectory => .unset

/-- What a setting is for. -/
def description : Setting → String
  | .logLevel => "Log level name (DEBUG, INFO, WARNING, ERROR)"
  | .darkMode => "Emit the dark theme variant when the CLI is not told otherwise"
  | .appTitle => "MaterialApp title used in generated source"
  | .idStem => "Prefix for ids assigned to sanitized elements"
  | .outputDirectory => "Directory the CLI writes generated files to"

/-- The group that a setting belongs to. -/
def category : Setting → String
  | .logLevel => "logging"
  | .darkMode => "codegen"
  | .appTitle => "codegen"
  | .idStem => "sanitize"
  | .outputDirectory => "output"

/-- The setting of a name. -/
def ofJson (j : Json) : Except Failure Setting :=
  match j with
  | .text s =>
      match all.find? fun setting => setting.name = s with
      | some setting => .ok setting
      | none => .error (.noEntry j)
  | _ => .error (if j.isKey then .noEntry j else .noKey j.kindName)

/-- The settings of a group, or all of them. -/
def ofCategory : Json → List Setting
  | .null => all
  | j => all.filter fun s => Json.text s.category = j

/-- The declaration of a setting: variable, default, kind, description and group. -/
def declaration (s : Setting) : Json :=
  .list [.text s.variableName, s.default.toJson, .text s.kind.name, .text s.description,
    .text s.category]

/-! ## Conversion -/

def trueWords : List String := ["true", "1", "yes", "on"]

def falseWords : List String := ["false", "0", "no", "off"]

/-- The truth value of a word. -/
def truth? (s : String) : Option Bool :=
  let word := Text.lower (Text.trim s)
  if word ∈ trueWords then some true else if word ∈ falseWords then some false else none

/-- The value of a kind that a text stands for, if it converts. -/
def convert (home : Option String) : Kind → String → Except Failure (Option Value)
  | .text, s => .ok (some (.text s))
  | .truth, s => .ok ((truth? s).map .truth)
  | .path, s => ((Path.ofText s).expandHome home).map fun p => some (.path p)

/-- The notice of a text that does not convert. -/
def ignored (s : Setting) (raw : String) : Logged Unit :=
  Logged.note .settings .warning ("Ignoring " ++ s.variableName ++ "=" ++
    (Json.text raw).literal ++ ": expected " ++ s.kind.name)

/-- The value of a setting in an environment. -/
def read (e : Environment) (s : Setting) : Logged Value :=
  match e.get? s.variableName with
  | none => pure s.default
  | some raw => do
      match ← Logged.ofExcept (convert e.home s.kind raw) with
      | some value => pure value
      | none =>
          ignored s raw
          pure s.default

/-- A setting as a record shows it, unless a value other than null is given for it. -/
def resolve (e : Environment) (s : Setting) (given : Json) : Logged Json :=
  if given = .null then Value.toJson <$> s.read e else pure given

/-- A text setting, unless a text is given for it. -/
def readText (e : Environment) (s : Setting) (given : Option String) : Logged String :=
  match given with
  | some text => pure text
  | none => do
      match ← s.read e with
      | .text text => pure text
      | _ => pure ""

/-- A truth setting, unless it is switched on. -/
def readTruth (e : Environment) (s : Setting) (given : Bool) : Logged Bool :=
  if given then pure true
  else do
    match ← s.read e with
    | .truth b => pure b
    | _ => pure false

/-- The directory for output. -/
def directory (e : Environment) : Logged Path := do
  match ← outputDirectory.read e with
  | .path p => pure p
  | _ => pure e.workingDirectory

end Setting

/-! ## Thresholds -/

namespace Threshold

/-- The ranks that have a name. -/
def names : List (String × Int) :=
  [("CRITICAL", 50), ("FATAL", 50), ("ERROR", 40), ("WARN", 30), ("WARNING", 30), ("INFO", 20),
   ("DEBUG", 10), ("NOTSET", 0)]

/-- The threshold if none is asked for. -/
def standard : Int := 20

/-- The rank of a name. -/
def ofName? (s : String) : Option Int := Entries.get? names (Text.upper (Text.trim s))

/-- The rank that a text names, or the standard one. -/
def ofText (s : String) : Int := (ofName? s).getD standard

/-- The rank that a value is or names, or a default. -/
def ofJson (default : Json) (j : Json) : Except Failure Json :=
  match j with
  | .bool _ => .ok j
  | .number (.int _) => .ok j
  | .text s => .ok (((ofName? s).map Json.int).getD default)
  | _ => if j.isTruthy then .error (.noText j.kindName) else .ok default

/-- The threshold in an environment. -/
def read (e : Environment) : Logged Int := do
  let s ← Setting.logLevel.readText e none
  pure (ofText s)

/-- The notices that reach a threshold. -/
def shown (threshold : Int) (notices : List Notice) : List Notice :=
  notices.filter fun n => threshold ≤ n.level.rank

end Threshold

end ScreenDesign
