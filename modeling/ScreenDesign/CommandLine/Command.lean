import ScreenDesign.CommandLine.Arguments
import ScreenDesign.CommandLine.Files
import ScreenDesign.Component.Catalog
import ScreenDesign.Outline
import ScreenDesign.Preview.Canvas
import ScreenDesign.Setting

/-!
# Commands

The five commands of the program.  A command reads at most one document, from a
file or from the input, and ends in a report: an exit code, a text for the output
and notices.  Only `generate` writes a file, and only after everything else has
succeeded.

* `sanitize` makes canonical elements of a raw batch.
* `generate` writes the program of a design.
* `preview` shows the previews of a design.
* `schema` shows the catalog.
* `validate` lists the problems of a design.
-/

namespace ScreenDesign.CommandLine

/-! ## Reports -/

/-- How a run ended. -/
structure Report where
  /-- The exit code. -/
  exit : Nat
  /-- The text for the output. -/
  output : String
  /-- The notices, oldest first. -/
  notices : List Notice
  deriving DecidableEq

/-- A notice of a command. -/
def say (level : Level) (message : String) : Logged Unit := Logged.note .commands level message

/-- What a command does when it succeeds: its exit code and its output. -/
abbrev Deed := Logged (Nat × String)

/-- The report of a deed.  A failure has no output, and its message follows the name
of the command's work. -/
def Deed.report (work : String) (deed : Deed) : Report :=
  match deed.result with
  | .ok (exit, output) => ⟨exit, output, deed.notices⟩
  | .error failure =>
      ⟨1, "", deed.notices ++ [⟨.commands, .error, work ++ " failed: " ++ failure.message⟩]⟩

/-! ## Documents -/

/-- A text with every line break written as a single character. -/
def unifyBreaks : List Char → List Char
  | [] => []
  | '\r' :: '\n' :: cs => '\n' :: unifyBreaks cs
  | c :: cs => (if c = '\r' then '\n' else c) :: unifyBreaks cs

/-- The value of a document. -/
def parseDocument (text : String) : Except Failure Json :=
  match Json.parse text with
  | .ok j => .ok j
  | .error e => .error (.unreadable e)

/-- The document at a path.  A dash stands for the input. -/
def readDocument {m : Type → Type} [Monad m] (fs : FileSystem m) (input : m String) (p : Path) :
    m (Except Failure Json) := do
  if p.text = "-" then
    return parseDocument (← input)
  match ← fs.read p with
  | .ok text => return parseDocument (String.ofList (unifyBreaks text.toList))
  | .error fault => return .error (.file fault p.text)

/-- The screens of a document. -/
def loadDesign (p : Path) (document : Except Failure Json) : Logged (List Screen) := do
  let j ← Logged.ofExcept document
  let screens ← Logged.ofExcept (Screen.loadAll j)
  say .debug ("Loaded " ++ screens.length.repr ++ " screen(s) from " ++ p.text)
  pure screens

/-- A value as a document. -/
def printed (j : Json) : String := j.indented ++ "\n"

/-! ## Sanitizing -/

/-- The batch inside a document: its elements, if it has a member of that name. -/
def batchOf (j : Json) : Json := (j.get? "elements").getD j

/-- What the elements of a batch are printed as: a list, or a design with one
screen. -/
def sanitizedDocument (g : Given) (elements : List Element) : Json :=
  match (g.text? "screen").filter (!·.isEmpty) with
  | some id =>
      let name := ((g.text? "name").filter (!·.isEmpty)).getD id
      Screen.dumpAll [⟨id, name, elements⟩]
  | none => Sanitize.ofElements elements

/-- The work of `sanitize`. -/
def sanitize (e : Environment) (g : Given) (document : Except Failure Json) : Deed := do
  let j ← Logged.ofExcept document
  let stem ← Setting.idStem.readText e (g.shown? "prefix")
  let elements ← Logged.ofNoted (Sanitize.batch stem (batchOf j))
  let output := printed (sanitizedDocument g elements)
  say .info ("Sanitized " ++ elements.length.repr ++ " element(s)")
  pure (0, output)

/-! ## Generating -/

/-- The program that `generate` is asked for. -/
def generated (e : Environment) (g : Given) (p : Path) (document : Except Failure Json) :
    Logged Dart.Program := do
  let screens ← loadDesign p document
  let dark ← Setting.darkMode.readTruth e (g.isOn "dark")
  let title ← Setting.appTitle.readText e (g.shown? "title")
  let program ← Dart.program dark title screens
  if g.isOn "tree" then say .info ("Design:\n" ++ Outline.ofDesign screens)
  pure program

/-- The path that a program is written to. -/
def outputPath (e : Environment) (given : String) : Logged Path := do
  let p := Path.ofText given
  if p.isAbsolute then pure p
  else do
    let directory ← Setting.directory e
    pure (directory.join p)

/-- The notice of how many warnings a program has. -/
def countWarnings (program : Dart.Program) : Logged Unit :=
  if program.warnings.isEmpty then pure ()
  else say .info ("Generated with " ++ program.warnings.length.repr ++ " warning(s)")

/-- A program with the path that it is to be written to. -/
def planned (e : Environment) (g : Given) (p : Path) (document : Except Failure Json) :
    Logged (Dart.Program × Option Path) := do
  let program ← generated e g p document
  match g.text? "output" with
  | none => pure (program, none)
  | some given => do
      let target ← outputPath e given
      pure (program, some target)

/-- What `generate` does once its program is written, or was to be printed. -/
def delivered (plan : Logged (Dart.Program × Option Path)) (saved : Except Failure Unit) :
    Deed := do
  let (program, target) ← plan
  match target with
  | none => do
      countWarnings program
      pure (0, program.code)
  | some target => do
      Logged.ofExcept saved
      say .info ("Flutter source saved to " ++ target.text)
      countWarnings program
      pure (0, "")

/-- The work of `generate`. -/
def generate {m : Type → Type} [Monad m] (fs : FileSystem m) (e : Environment) (g : Given)
    (p : Path) (document : Except Failure Json) : m Deed := do
  let plan := planned e g p document
  match plan.result with
  | .ok (program, some target) => return delivered plan (← fs.save target program.code)
  | _ => return delivered plan (.ok ())

/-! ## Previewing -/

/-- The screens that `preview` is asked for. -/
def chosenScreens (g : Given) (screens : List Screen) : List Screen :=
  match (g.text? "screen").filter (!·.isEmpty) with
  | some id => screens.filter fun s => s.id = id
  | none => screens

/-- The previews of a screen's elements as a record. -/
def previewRecord (theme : Theme) (s : Screen) : Logged (String × Json) := do
  let nodes ← Preview.byId theme s
  pure (s.id, .object (nodes.map fun (id, n) => (id, n.toJson)))

/-- The work of `preview`. -/
def preview (e : Environment) (g : Given) (p : Path) (document : Except Failure Json) : Deed := do
  let screens ← loadDesign p document
  let chosen := chosenScreens g screens
  match (g.text? "screen").filter (!·.isEmpty), chosen with
  | some id, [] => do
      say .error ("Screen not found: " ++ id)
      pure (1, "")
  | _, _ => do
      let dark ← Setting.darkMode.readTruth e (g.isOn "dark")
      if g.isOn "json" then do
        let records ← chosen.mapM (previewRecord (Theme.of dark))
        pure (0, printed (.object (Entries.ofPairs records)))
      else do
        let canvases ← chosen.mapM (Preview.screen (Theme.of dark))
        pure (0, "\n\n".intercalate (canvases.map Node.drawing) ++ "\n")

/-! ## The catalog -/

/-- The work of `schema`. -/
def schema (g : Given) : Deed :=
  if g.isOn "json-schema" then pure (0, printed Catalog.elementSchema)
  else if g.isOn "llm" then pure (0, printed Catalog.promptBundle)
  else
    match g.operand with
    | none => pure (0, printed Catalog.catalog)
    | some name =>
        match ComponentType.ofName? name with
        | some t => pure (0, printed (Catalog.entry t))
        | none => do
            say .error ("Unknown component type: " ++ name)
            say .info ("Available types: " ++
              ", ".intercalate (ComponentType.all.map ComponentType.name))
            pure (1, "")

/-! ## Validating -/

/-- A finding on one line. -/
def findingLine (f : Finding) : String :=
  f.subject ++ ": [" ++ f.problem.kind ++ "] " ++ f.problem.message ++ "\n"

/-- The work of `validate`. -/
def validate (p : Path) (document : Except Failure Json) : Deed := do
  let screens ← loadDesign p document
  let findings := Finding.ofDesign screens
  if findings.isEmpty then do
    say .info ("Design is valid (" ++ screens.length.repr ++ " screen(s))")
    pure (0, "")
  else do
    say .warning ("Found " ++ findings.length.repr ++ " validation error(s)")
    pure (1, String.join (findings.map findingLine))

/-! ## The program -/

inductive Command where
  | sanitize
  | generate
  | preview
  | schema
  | validate
  deriving DecidableEq

namespace Command

/-- The commands in order. -/
def all : List Command := [.sanitize, .generate, .preview, .schema, .validate]

/-- The name of a command. -/
def name : Command → String
  | .sanitize => "sanitize"
  | .generate => "generate"
  | .preview => "preview"
  | .schema => "schema"
  | .validate => "validate"

/-- What a command is for. -/
def purpose : Command → String
  | .sanitize => "Coerce a generated element batch into canonical elements"
  | .generate => "Generate a Flutter application from a design file"
  | .preview => "Show structural previews of a design's screens"
  | .schema => "Show the component catalog or its JSON Schema"
  | .validate => "Check a design for geometry, id and navigation problems"

/-- The arguments that a command takes. -/
def spec : Command → CommandSpec
  | .sanitize =>
      ⟨[⟨"prefix", some 'p', .value⟩, ⟨"screen", some 's', .value⟩, ⟨"name", none, .value⟩], true⟩
  | .generate =>
      ⟨[⟨"dark", none, .switch⟩, ⟨"title", some 't', .value⟩, ⟨"output", some 'o', .value⟩,
        ⟨"tree", none, .switch⟩], true⟩
  | .preview =>
      ⟨[⟨"dark", none, .switch⟩, ⟨"screen", some 's', .value⟩, ⟨"json", none, .switch⟩], true⟩
  | .schema => ⟨[⟨"json-schema", none, .switch⟩, ⟨"llm", none, .switch⟩], false⟩
  | .validate => ⟨[], true⟩

/-- What the work of a command is called when it fails. -/
def work : Command → String
  | .sanitize => "Sanitize"
  | .generate => "Generation"
  | .preview => "Preview"
  | .schema => "Schema"
  | .validate => "Validation"

/-- The command of a name. -/
def ofName? (s : String) : Option Command := all.find? fun c => c.name = s

/-- Runs a command on the arguments it was given. -/
def run {m : Type → Type} [Monad m] (c : Command) (fs : FileSystem m) (input : m String)
    (e : Environment) (g : Given) : m Report := do
  let p := Path.ofText (g.operand.getD "")
  match c with
  | .schema => return (CommandLine.schema g).report c.work
  | .sanitize => do
      let document ← readDocument fs input p
      return (CommandLine.sanitize e g document).report c.work
  | .generate => do
      let document ← readDocument fs input p
      let deed ← CommandLine.generate fs e g p document
      return deed.report c.work
  | .preview => do
      let document ← readDocument fs input p
      return (CommandLine.preview e g p document).report c.work
  | .validate => do
      let document ← readDocument fs input p
      return (CommandLine.validate p document).report c.work

end Command

/-- What the program tells about itself. -/
def help : String :=
  "Usage: python . \x7bcommand\x7d [args]\n\n=== Commands ===\n" ++
    String.join (Command.all.map fun c =>
      "  " ++ c.name ++ String.ofList (List.replicate (11 - c.name.length) ' ') ++ c.purpose ++
        "\n") ++
    "\nExamples:\n" ++
    "  python . sanitize batch.json --screen home\n" ++
    "  python . generate design.json --dark -o lib/main.dart\n" ++
    "  python . preview design.json --screen home\n" ++
    "  python . schema dynamicTable\n" ++
    "  python . schema --json-schema\n" ++
    "  python . validate design.json\n"

/-- How the program ended. -/
inductive Ending where
  /-- With an exit code, a text for the output and the lines of a log. -/
  | finished (exit : Nat) (output log : String)
  /-- Without a command, because of its arguments. -/
  | refused (why : Refusal)
  deriving DecidableEq

/-- A notice on a line of its own. -/
def logLine (n : Notice) : String :=
  n.source.name ++ " - " ++ n.level.name ++ " - " ++ n.message ++ "\n"

/-- The log of notices that reach a threshold. -/
def log (threshold : Int) (notices : List Notice) : String :=
  String.join ((Threshold.shown threshold notices).map logLine)

/-- Runs the program on its arguments. -/
def run {m : Type → Type} [Monad m] (fs : FileSystem m) (input : m String) (e : Environment)
    (arguments : List String) : m Ending := do
  match arguments with
  | [] => return .finished 1 help ""
  | first :: rest =>
      if first = "-h" || first = "--help" then return .finished 0 help ""
      match Command.ofName? first with
      | none => return .finished 1 help ("Unknown command: " ++ first ++ "\n")
      | some c =>
          let threshold := match (Threshold.read e).result with
            | .ok n => n
            | .error _ => Threshold.standard
          match parse c.spec rest with
          | .error why => return .refused why
          | .ok g => do
              let report ← c.run fs input e g
              return .finished report.exit report.output (log threshold report.notices)

end ScreenDesign.CommandLine
