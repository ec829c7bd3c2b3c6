import ScreenDesign.Path

/-!
# Files

Commands read and write files through a `FileSystem`, a record of operations over a
monad.  `makeDirectory` makes a single directory, and `ensureDirectory` makes a
directory with all those above it.

`Tree` is a file system as a value: a list of places, each with what stands there.
Paths are followed part by part, so every part but the last must be a directory.
-/

namespace ScreenDesign.CommandLine

/-- Operations on files over a monad. -/
structure FileSystem (m : Type → Type) where
  /-- The text of a file. -/
  read : Path → m (Except FileFault String)
  /-- Makes a directory whose parent exists. -/
  makeDirectory : Path → m (Except FileFault Unit)
  /-- Whether a path leads to a directory. -/
  isDirectory : Path → m Bool
  /-- Writes a text to a file that is made or emptied before. -/
  write : Path → String → m (Except FileFault Unit)

namespace FileSystem

variable {m : Type → Type} [Monad m]

/-- Makes a directory unless it is there. -/
def makeUnlessThere (fs : FileSystem m) (p : Path) : m (Except FileFault Unit) := do
  match ← fs.makeDirectory p with
  | .ok () => pure (.ok ())
  | .error fault => do
      if fault ≠ .absent && (← fs.isDirectory p) then pure (.ok ()) else pure (.error fault)

/-- Makes a directory and those above it, `depth` of them at most.  The answer names
the path that failed. -/
def ensureDirectory (fs : FileSystem m) : Nat → Path → m (Except Failure Unit)
  | 0, p => do
      match ← fs.makeUnlessThere p with
      | .ok () => pure (.ok ())
      | .error fault => pure (.error (.file fault p.text))
  | depth + 1, p => do
      match ← fs.makeUnlessThere p with
      | .ok () => pure (.ok ())
      | .error .absent =>
          if p.parent = p then pure (.error (.file .absent p.text))
          else
            match ← fs.ensureDirectory depth p.parent with
            | .error failure => pure (.error failure)
            | .ok () => do
                match ← fs.makeUnlessThere p with
                | .ok () => pure (.ok ())
                | .error fault => pure (.error (.file fault p.text))
      | .error fault => pure (.error (.file fault p.text))
termination_by structural depth => depth

/-- Writes a text to a file and makes the directories above it. -/
def save (fs : FileSystem m) (p : Path) (text : String) : m (Except Failure Unit) := do
  match ← fs.ensureDirectory p.parts.length p.parent with
  | .error failure => pure (.error failure)
  | .ok () => do
      match ← fs.write p text with
      | .ok () => pure (.ok ())
      | .error fault => pure (.error (.file fault p.text))

end FileSystem

/-! ## File systems as values -/

/-- What stands at a place. -/
inductive Place where
  /-- A directory. -/
  | directory
  /-- A file with a text. -/
  | file (text : String)
  /-- A device that is empty and takes anything. -/
  | sink
  deriving DecidableEq

/-- Places under the parts of their absolute paths.  The root is always there. -/
abbrev Tree := List (List String × Place)

namespace Tree

/-- What stands at an absolute place. -/
def at? (tree : Tree) (place : List String) : Option Place :=
  if place.isEmpty then some .directory
  else (tree.find? fun entry => entry.1 = place).map Prod.snd

/-- The tree with something put at a place. -/
def put (tree : Tree) (place : List String) (what : Place) : Tree :=
  if tree.any fun entry => entry.1 = place then
    tree.map fun entry => if entry.1 = place then (place, what) else entry
  else tree ++ [(place, what)]

/-- Follows parts from a directory.  The last part need not be there. -/
def follow (tree : Tree) (directory : List String) : List String → Except FileFault (List String)
  | [] => .ok directory
  | ".." :: parts => follow tree directory.dropLast parts
  | part :: parts =>
      let place := directory ++ [part]
      match parts, tree.at? place with
      | [], _ => .ok place
      | _, some .directory => follow tree place parts
      | _, some _ => .error .notDirectory
      | _, none => .error .absent

/-- The absolute place that a path leads to. -/
def resolve (tree : Tree) (workingDirectory : List String) (p : Path) :
    Except FileFault (List String) :=
  follow tree (if p.isAbsolute then [] else workingDirectory) p.parts

/-- The text of a file. -/
def read (workingDirectory : List String) (p : Path) (tree : Tree) : Except FileFault String :=
  match tree.resolve workingDirectory p with
  | .error fault => .error fault
  | .ok place =>
      match tree.at? place with
      | some .directory => .error .isDirectory
      | some (.file text) => .ok text
      | some .sink => .ok ""
      | none => .error .absent

def makeDirectory (workingDirectory : List String) (p : Path) (tree : Tree) :
    Except FileFault Unit × Tree :=
  match tree.resolve workingDirectory p with
  | .error fault => (.error fault, tree)
  | .ok place =>
      match tree.at? place with
      | some _ => (.error .exists, tree)
      | none => (.ok (), tree.put place .directory)

/-- Whether a path leads to a directory. -/
def isDirectory (workingDirectory : List String) (p : Path) (tree : Tree) : Bool :=
  match tree.resolve workingDirectory p with
  | .error _ => false
  | .ok place => tree.at? place = some .directory

/-- Writes a text to a file. -/
def write (workingDirectory : List String) (p : Path) (text : String) (tree : Tree) :
    Except FileFault Unit × Tree :=
  match tree.resolve workingDirectory p with
  | .error fault => (.error fault, tree)
  | .ok place =>
      match tree.at? place with
      | some .directory => (.error .isDirectory, tree)
      | some .sink => (.ok (), tree)
      | _ => (.ok (), tree.put place (.file text))

/-- The operations on a tree, seen from a working directory. -/
def fileSystem (workingDirectory : List String) : FileSystem (StateM Tree) where
  read p := do return read workingDirectory p (← get)
  makeDirectory p := modifyGet (makeDirectory workingDirectory p)
  isDirectory p := do return isDirectory workingDirectory p (← get)
  write p text := modifyGet (write workingDirectory p text)

end Tree

end ScreenDesign.CommandLine
