import Blueprint.FileTree
import Blueprint.Template.ConstantTable

/-!
The code of processors, given as lines or as a file. A file with compiled code is read as it is;
one with source code goes through a compiler.
-/

namespace Blueprint

/-- Turns source lines into code, in view of the directory of the file and the constants. -/
abbrev Compiler := List String → Path → Template.ConstantTable → Except String (List String)

/-- The compiler that stands in where there is none. -/
def noCompiler : Compiler := fun _ _ _ => .error "no program compiler is configured"

inductive ProgramError where
  | notFound (path : Path)
  | notAFile (path : Path)
  | unreadable (path : Path) (cause : FileError)
  | notCompiled (path : Path) (problem : String)
  deriving DecidableEq, Repr

def ProgramError.message : ProgramError → String
  | notFound path => s!"Path \"{path.display}\" does not exist."
  | notAFile path => s!"Path \"{path.display}\" is not a file."
  | unreadable path cause => s!"Failed to read program {path.display}: {cause.message}"
  | notCompiled path problem => s!"Failed to compile program {path.display}: {problem}"

/-- Where programs come from. -/
structure Workshop where
  files : FileTree
  /-- The directory that paths are relative to. -/
  base : Path
  compiler : Compiler
  constants : Template.ConstantTable

namespace Program

def sourceExtension : String := ".mlogx"

def isSource (path : String) : Bool := sourceExtension.toList.isSuffixOf path.toList

def readLines (files : FileTree) (path : Path) : Except ProgramError (List String) :=
  match files.look? path with
  | none => .error (.notFound path)
  | some .folder => .error (.notAFile path)
  | some .sink => .error (.notAFile path)
  | some (.file _) =>
    match files.readText path with
    | .error cause => .error (.unreadable path cause)
    | .ok content => .ok ((Text.programLines content.toList).map .ofList)

def compileFile (shop : Workshop) (path : Path) (source : List String) :
    Except ProgramError (List String) :=
  let directory := (Path.parent? path).getD shop.base
  (shop.compiler source directory shop.constants).mapError (.notCompiled path)

/-- The path of a program file. -/
def pathIn (shop : Workshop) (relative : String) : Path := Path.join shop.base (Text.utf8 relative)

/-- The lines of code of a program. -/
def load (shop : Workshop) : Program → Except ProgramError (List String)
  | .lines code => .ok code
  | .path relative => do
    let path := pathIn shop relative
    let content ← readLines shop.files path
    if isSource relative then compileFile shop path content else .ok content

end Program

end Blueprint
