import Blueprint.Text.Split
import Blueprint.Text.Utf8

/-!
File paths: names between slashes. A single dot and a slash at the end name nothing further. The
bytes of a path need not be text.
-/

namespace Blueprint

abbrev Path := List UInt8

/-- A part of a path between slashes. -/
abbrev Name := List UInt8

namespace Path

def slash : UInt8 := 0x2F

def dot : UInt8 := 0x2E

/-- The name that leads from a folder to itself. -/
def here : Name := [dot]

/-- The name that leads to the folder above. -/
def above : Name := [dot, dot]

def names (path : Path) : List Name := Text.split slash path

/-- Drops slashes and dots from the end of a reversed path as long as they name nothing. -/
def trimReversed : Path → Path
  | [] => []
  | byte :: rest =>
    if byte = slash ∧ rest ≠ [] ∨ byte = dot ∧ rest.head? = some slash then trimReversed rest
    else byte :: rest

def trimmed (path : Path) : Path := (trimReversed path.reverse).reverse

/-- The last name of a trimmed path. -/
def lastName (path : Path) : Name := (path.reverse.takeWhile (· ≠ slash)).reverse

/-- The path without its last name. -/
def parent? (path : Path) : Option Path :=
  let path := trimmed path
  if path = [] ∨ path = [slash] then none
  else some (trimmed (path.reverse.dropWhile (· ≠ slash)).reverse)

def fileName? (path : Path) : Option Name :=
  let name := lastName (trimmed path)
  if name = [] ∨ name = here ∨ name = above then none else some name

def isAbsolute (path : Path) : Bool := path.head? = some slash

/-- A path as seen from a directory. -/
def join (directory path : Path) : Path :=
  if isAbsolute path ∨ directory = [] then path
  else if directory.getLast? = some slash then directory ++ path
  else directory ++ slash :: path

/-- Replaces the last name, or adds one where there is none. -/
def withFileName (path : Path) (name : Name) : Path :=
  match fileName? path, parent? path with
  | some _, some directory => join directory name
  | _, _ => join path name

/-- A path as it is shown to people. -/
def display (path : Path) : String := Text.shown path

end Path

end Blueprint
