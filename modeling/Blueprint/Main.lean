import Blueprint.CommandLine.Sources

/-!
The command line: reads the files that a command looks at, runs it, and writes what has changed.
-/

namespace Blueprint

def pathOf (place : Place) : String := Path.display (Path.slash :: [Path.slash].intercalate place)

/-- The place that a path leads to without links and dots. -/
def placeOf (path : String) : Place := (Path.names (Text.utf8 path)).filter (· ≠ [])

def nullDevice : Place := [Text.utf8 "dev", Text.utf8 "null"]

/-- What is at a place. -/
def readObject (place : Place) : IO (Option Object) := do
  if place = nullDevice then return some .sink
  match ← (IO.FS.readBinFile (pathOf place)).toBaseIO with
  | .ok bytes =>
    match String.fromUTF8? bytes with
    | some text => return some (.file (.text text))
    | none => return some (.file .binary)
  | .error (.inappropriateType ..) => return some .folder
  | .error (.noFileOrDirectory ..) => return none
  | .error problem => throw problem

/-- The place that a link stands for, and every other place for itself. -/
def realPlace (place : Place) : IO Place := do
  match ← (IO.FS.realPath (pathOf place)).toBaseIO with
  | .ok real => return placeOf real.toString
  | .error _ => return place

/-- Adds what is found on the way to a path. -/
def explore (files : FileTree) (path : Path) : IO FileTree := do
  let mut files := files
  let mut place := FileTree.start files.working path
  for name in path.names do
    let next := FileTree.step place name
    place ← realPlace next
    if place ≠ next ∧ (files.entries.lookup next).isNone then
      files := files.insert next (.link (Text.utf8 (pathOf place)))
    if (files.entries.lookup place).isNone then
      if let some object ← readObject place then
        files := files.add place object
  return files

/-- The files that a command looks at. -/
def filesFor (working : Place) (command : CommandLine.Command) : IO FileTree := do
  let named ← command.paths.foldlM explore ⟨working, [], []⟩
  (command.programPaths named).foldlM explore named

def finish (before : FileTree) (outcome : CommandLine.Outcome) : IO UInt32 := do
  for event in outcome.events do
    IO.eprintln event.line
  for (place, content) in before.changesSince outcome.files do
    IO.FS.writeFile (pathOf place) content
  IO.print outcome.output
  IO.eprint outcome.problems
  return .ofNat outcome.code

end Blueprint

open Blueprint in
def main (arguments : List String) : IO UInt32 := do
  let arguments := arguments.map Text.utf8
  let files ← match CommandLine.readRequest arguments with
    | .ok request => filesFor (placeOf (← IO.currentDir).toString) request.command
    | .error _ => pure .empty
  finish files (CommandLine.run .standard files arguments)
