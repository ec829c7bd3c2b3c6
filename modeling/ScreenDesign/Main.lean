import ScreenDesign.CommandLine.Command

/-!
# The program

Runs the commands on the files, the input and the environment of the system.  All
decisions are made elsewhere; this module only carries texts in and out.
-/

namespace ScreenDesign.Main

open CommandLine

/-- The fault behind an error of the system. -/
def faultOf : IO.Error → FileFault
  | .noFileOrDirectory _ _ _ => .absent
  | .alreadyExists _ _ _ => .exists
  | .inappropriateType _ code details =>
      if code = 20 then .notDirectory else if code = 21 then .isDirectory else .other details
  | error => .other error.toString

/-- The outcome of an operation of the system. -/
def attempt {α : Type} (action : IO α) : IO (Except FileFault α) := do
  try
    let a ← action
    pure (.ok a)
  catch error => pure (.error (faultOf error))

/-- Whether a path leads to a directory of the system. -/
def isDirectory (p : Path) : IO Bool := do
  let directory ← IO.currentDir
  (directory / p.text).isDir

/-- The files of the system. -/
def files : FileSystem IO where
  read p := do
    if ← isDirectory p then pure (.error .isDirectory) else attempt (IO.FS.readFile p.text)
  makeDirectory p := attempt (IO.FS.createDir p.text)
  isDirectory := isDirectory
  write p text := do
    if ← isDirectory p then pure (.error .isDirectory) else attempt (IO.FS.writeFile p.text text)

/-- The environment of the system. -/
def environment : IO Environment := do
  let names := "HOME" :: Setting.all.map Setting.variableName
  let given ← names.filterMapM fun name => do
    let value ← IO.getEnv name
    pure (value.map fun s => (name, s))
  let directory ← IO.currentDir
  pure ⟨given, Path.ofText directory.toString⟩

/-- Runs the program and writes what it says. -/
def runProgram (arguments : List String) : IO UInt32 := do
  let input ← IO.getStdin
  let output ← IO.getStdout
  let errors ← IO.getStderr
  match ← run files input.readToEnd (← environment) arguments with
  | .finished exit text log => do
      errors.putStr log
      output.putStr text
      pure exit.toUInt32
  | .refused .help => do
      output.putStr help
      pure 0
  | .refused .usage => do
      errors.putStr help
      pure 2

end ScreenDesign.Main

/-- The entry of the program. -/
def main (arguments : List String) : IO UInt32 := ScreenDesign.Main.runProgram arguments
