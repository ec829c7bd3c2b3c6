import ScreenDesign.Entries
import ScreenDesign.Text.Digit

/-!
# Arguments

The arguments of a command are options and at most one operand, in any order.

* A long option may be shortened as long as it stays unambiguous, and its value may
  follow a `=` or be the next argument.
* The value of a short option may follow at once, or after a `=`, or be the next
  argument.  Behind a short option without a value stand the letters of further ones.
* A value written as `--` right at its option is no text, but an empty list.
* A single dash, the empty text, a negative number and a text with a blank in it are
  operands, unless they are options.
* After `--` everything is an operand.

First every argument is classified, and an ambiguous one is an error.  Then the
arguments are used from left to right, and a request for help ends this at once.
Superfluous arguments are an error only if nothing ended it before.
-/

namespace ScreenDesign.CommandLine

/-! ## Declarations -/

/-- What an option does. -/
inductive OptionKind where
  /-- It asks for help. -/
  | help
  /-- It switches something on. -/
  | switch
  /-- It gives a value. -/
  | value
  deriving DecidableEq

/-- An option of a command. -/
structure OptionSpec where
  /-- The long name, without its dashes. -/
  long : String
  /-- The letter. -/
  short : Option Char
  /-- What it does. -/
  kind : OptionKind
  deriving DecidableEq

/-- What arguments a command takes. -/
structure CommandSpec where
  /-- The options. -/
  options : List OptionSpec
  /-- Whether the operand must be given. -/
  operandRequired : Bool

/-- The option that every command has. -/
def helpOption : OptionSpec := ⟨"help", some 'h', .help⟩

/-! ## Classification -/

/-- What an argument is. -/
inductive Argument where
  /-- A text that is no option. -/
  | operand (s : String)
  /-- The end of the options. -/
  | terminator
  /-- An option, perhaps with a value. -/
  | option (o : OptionSpec) (value : Option String)
  /-- An option under its letter, with what is written behind the letter. -/
  | letters (o : OptionSpec) (more : List Char)
  /-- An option that the command does not have. -/
  | unknown
  deriving DecidableEq

/-- Why arguments lead to no command. -/
inductive Refusal where
  /-- Help was asked for. -/
  | help
  /-- The arguments are not those of the command. -/
  | usage
  deriving DecidableEq

/-- Whether a text is a dash and a number. -/
def isNegativeNumber (cs : List Char) : Bool :=
  let isDigit (c : Char) : Bool := (Text.digitValue? c).isSome
  match cs with
  | '-' :: rest =>
      let whole := rest.takeWhile isDigit
      match rest.dropWhile isDigit with
      | [] => !whole.isEmpty
      | ['\n'] => !whole.isEmpty
      | '.' :: fraction =>
          let digits := fraction.takeWhile isDigit
          let after := fraction.dropWhile isDigit
          !digits.isEmpty && (after.isEmpty || after = ['\n'])
      | _ => false
  | _ => false

/-- The part of a text before its first `=` and the part after it. -/
def splitValue (s : String) : String × Option String :=
  let cs := s.toList
  match cs.dropWhile (· ≠ '=') with
  | _ :: value => (String.ofList (cs.takeWhile (· ≠ '=')), some (String.ofList value))
  | [] => (s, none)

/-- A dash and a text that are no option: an operand in some cases. -/
def dashed (s : String) : Argument :=
  if isNegativeNumber s.toList || s.toList.contains ' ' then .operand s else .unknown

/-- What an argument with two dashes in front is. -/
def classifyLong (options : List OptionSpec) (s : String) : Except Refusal Argument :=
  let (name, value) := splitValue s
  match options.find? fun o => "--" ++ o.long = s with
  | some o => .ok (.option o none)
  | none =>
      match options.find? fun o => "--" ++ o.long = name with
      | some o => .ok (.option o value)
      | none =>
          match options.filter fun o => name.toList.isPrefixOf ("--" ++ o.long).toList with
          | [] => .ok (dashed s)
          | [o] => .ok (.option o value)
          | _ => .error .usage

/-- What an option under its letter is.  A `=` behind the letter does not count, but
nothing behind the `=` is a value too, and an empty one. -/
def lettered (o : OptionSpec) : List Char → Argument
  | '=' :: value =>
      if o.kind = .value ∨ value = [] then .option o (some (String.ofList value))
      else .letters o value
  | more => .letters o more

/-- What an argument with one dash and a letter in front is. -/
def classifyShort (options : List OptionSpec) (s : String) (letter : Char) (more : List Char) :
    Argument :=
  match options.find? fun o => o.short = some letter with
  | some o => lettered o more
  | none => dashed s

/-- What an argument is. -/
def classify (options : List OptionSpec) (s : String) : Except Refusal Argument :=
  match s.toList with
  | ['-'] => .ok (.operand s)
  | '-' :: '-' :: _ => classifyLong options s
  | '-' :: letter :: more => .ok (classifyShort options s letter more)
  | _ => .ok (.operand s)

/-- What each argument is, up to the end of the options. -/
def classifyAll (options : List OptionSpec) : List String → Except Refusal (List Argument)
  | [] => .ok []
  | s :: rest =>
      if s = "--" then .ok (.terminator :: rest.map .operand)
      else do
        let a ← classify options s
        let as ← classifyAll options rest
        pure (a :: as)

/-! ## Use -/

inductive OptionValue where
  /-- A text. -/
  | text (s : String)
  /-- An empty list. -/
  | emptyList
  deriving DecidableEq

namespace OptionValue

/-- The value that is written right at an option. -/
def written (s : String) : OptionValue := if s = "--" then .emptyList else .text s

/-- The text that a value is. -/
def text? : OptionValue → Option String
  | .text s => some s
  | .emptyList => none

/-- A value as it is shown. -/
def shown : OptionValue → String
  | .text s => s
  | .emptyList => "[]"

end OptionValue

/-- The arguments that a command was given. -/
structure Given where
  /-- The operand. -/
  operand : Option String
  /-- The long names of the switches that are on. -/
  switches : List String
  /-- The values under the long names of their options. -/
  values : Entries OptionValue
  /-- Whether anything was left over. -/
  superfluous : Bool
  deriving DecidableEq

/-- No arguments. -/
def Given.none : Given := ⟨.none, [], [], false⟩

/-- Whether a switch is on. -/
def Given.isOn (g : Given) (long : String) : Bool := g.switches.contains long

/-- The value of an option. -/
def Given.value? (g : Given) (long : String) : Option OptionValue := Entries.get? g.values long

/-- The text that an option has as its value. -/
def Given.text? (g : Given) (long : String) : Option String :=
  (g.value? long).bind OptionValue.text?

/-- The value of an option as it is shown. -/
def Given.shown? (g : Given) (long : String) : Option String :=
  (g.value? long).map OptionValue.shown

/-- The given arguments with a value. -/
def Given.withValue (g : Given) (o : OptionSpec) (value : OptionValue) : Given :=
  { g with values := Entries.insert g.values o.long value }

/-- The given arguments with a switch on. -/
def Given.withSwitch (g : Given) (o : OptionSpec) : Given :=
  { g with switches := o.long :: g.switches }

/-- The effect of an option under its letter and of what is written behind it.  An
option that takes a value takes all of it.  Behind any other option stand the letters of
further options.  The answer says whether help was asked for, and which option still
needs a value: only once that is found does the request count. -/
def bundle (options : List OptionSpec) (asked : Bool) (g : Given) (o : OptionSpec) :
    List Char → Except Refusal (Bool × Given × Option OptionSpec)
  | [] =>
      match o.kind with
      | .value => .ok (asked, g, some o)
      | .switch => .ok (asked, g.withSwitch o, none)
      | .help => .ok (true, g, none)
  | letter :: more =>
      if o.kind = .value then
        .ok (asked, g.withValue o (.written (String.ofList (letter :: more))), none)
      else
        let asked := asked || o.kind = .help
        let g := if o.kind = .switch then g.withSwitch o else g
        match options.find? fun o => o.short = some letter with
        | some next => bundle options asked g next more
        | none => .error .usage
termination_by structural more => more

/-- Help ends the use of arguments. -/
def unlessAsked (asked : Bool) (g : Given) : Except Refusal Given :=
  if asked then .error .help else .ok g

/-- Uses the arguments after the end of the options.  `justTaken` says whether the
operand stood right before it. -/
def useOperands (required justTaken : Bool) (g : Given) : List Argument → Given
  | [] => if g.operand.isSome && !justTaken then { g with superfluous := true }
      else if g.operand.isNone && required then { g with superfluous := true }
      else g
  | .operand s :: rest =>
      if g.operand.isSome then { g with superfluous := true }
      else { g with operand := some s, superfluous := g.superfluous || !rest.isEmpty }
  | _ => { g with superfluous := true }

/-- Uses arguments from left to right.  `justTaken` says whether the operand was the
last one used. -/
def use (spec : CommandSpec) (justTaken : Bool) (g : Given) :
    List Argument → Except Refusal Given
  | [] => .ok g
  | .operand s :: rest =>
      if g.operand.isSome then use spec false { g with superfluous := true } rest
      else use spec true { g with operand := some s } rest
  | .terminator :: rest => .ok (useOperands spec.operandRequired justTaken g rest)
  | .unknown :: rest => use spec false { g with superfluous := true } rest
  | .option o value :: rest =>
      match o.kind, value with
      | .help, none => .error .help
      | .switch, none => use spec false (g.withSwitch o) rest
      | .value, some v => use spec false (g.withValue o (.written v)) rest
      | .value, none =>
          match rest with
          | .operand v :: rest => use spec false (g.withValue o (.text v)) rest
          | _ => .error .usage
      | _, some _ => .error .usage
  | .letters o more :: rest =>
      match bundle spec.options false g o more with
      | .error refusal => .error refusal
      | .ok (asked, g, none) =>
          match unlessAsked asked g with
          | .error refusal => .error refusal
          | .ok g => use spec false g rest
      | .ok (asked, g, some o) =>
          match rest with
          | .operand v :: rest =>
              match unlessAsked asked (g.withValue o (.text v)) with
              | .error refusal => .error refusal
              | .ok g => use spec false g rest
          | _ => .error .usage

/-- The arguments of a command, or why there are none. -/
def parse (spec : CommandSpec) (arguments : List String) : Except Refusal Given := do
  let spec := { spec with options := helpOption :: spec.options }
  let classified ← classifyAll spec.options arguments
  let g ← use spec false Given.none classified
  if g.superfluous || (spec.operandRequired && g.operand.isNone) then .error .usage else pure g

/-! ## Examples -/

/-- A command with an option of each kind. -/
def exampleSpec : CommandSpec :=
  ⟨[⟨"dark", none, .switch⟩, ⟨"title", some 't', .value⟩, ⟨"tree", none, .switch⟩], true⟩

/-- A shortened option, and a value right behind its letter. -/
example : parse exampleSpec ["--da", "a", "-tHome"] =
    .ok ⟨some "a", ["dark"], [("title", .text "Home")], false⟩ := by rfl

/-- Two options start like this. -/
example : parse exampleSpec ["a", "--t", "x"] = .error .usage := by rfl

/-- A request for help wins over a missing operand, but neither over a missing value nor
over an unknown letter. -/
example : [["-h"], ["-ht"], ["-hx"]].map (parse exampleSpec) =
    [.error .help, .error .usage, .error .usage] := by rfl

/-- Behind `--` stand operands only. -/
example : parse exampleSpec ["--", "--dark"] = .ok ⟨some "--dark", [], [], false⟩ := by
  rfl

/-- As the value of an option, `--` is an empty list. -/
example : parse exampleSpec ["a", "--title=--"] =
    .ok ⟨some "a", [], [("title", .emptyList)], false⟩ := by rfl

end ScreenDesign.CommandLine
