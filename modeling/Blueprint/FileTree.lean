import Blueprint.Path

/-!
The files, folders and links that a program can see, and reading and writing them by path.
-/

namespace Blueprint

inductive FileError where
  | notFound | notDirectory | isDirectory | nameTooLong | tooManyLinks | nullInName | notText
  deriving DecidableEq, Repr

def FileError.message : FileError → String
  | notFound => "No such file or directory (os error 2)"
  | notDirectory => "Not a directory (os error 20)"
  | isDirectory => "Is a directory (os error 21)"
  | nameTooLong => "File name too long (os error 36)"
  | tooManyLinks => "Too many levels of symbolic links (os error 40)"
  | nullInName => "file name contained an unexpected NUL byte"
  | notText => "stream did not contain valid UTF-8"

/-- The content of a file, where it is text. -/
inductive Content where
  | text (value : String)
  | binary
  deriving DecidableEq, Repr

/-- What is at a place. -/
inductive Node where
  /-- A file, by its number. It may be at several places. -/
  | file (number : Nat)
  | folder
  /-- A path that is followed instead, from the folder that the link is in. -/
  | link (target : Path)
  /-- A device that is always empty and keeps nothing that is written to it. -/
  | sink
  deriving DecidableEq, Repr

/-- What a path leads to in the end. -/
inductive Object where
  | file (content : Content)
  | folder
  | sink
  deriving DecidableEq, Repr

/-- The names that lead from the root to a place without any links. -/
abbrev Place := List Name

/-- Files, folders and links by their places. Folders on the way to an entry exist too. -/
structure FileTree where
  /-- The folder that relative paths start from. -/
  working : Place
  entries : List (Place × Node)
  /-- The contents of files by their numbers. Other files are empty. -/
  contents : List (Nat × Content)
  deriving DecidableEq, Repr

namespace FileTree

def empty : FileTree := ⟨[], [], []⟩

/-! ### What is at a place -/

/-- The working folder is at a place or below it, or an entry is below it. -/
def holds (tree : FileTree) (place : Place) : Bool :=
  place.isPrefixOf tree.working ||
    tree.entries.any fun entry => place.isPrefixOf entry.1 && place ≠ entry.1

def nodeAt? (tree : FileTree) (place : Place) : Option Node :=
  if tree.holds place then some .folder else tree.entries.lookup place

def isFolder (tree : FileTree) (place : Place) : Bool := tree.nodeAt? place = some .folder

def contentOf (tree : FileTree) (number : Nat) : Content :=
  (tree.contents.lookup number).getD (.text "")

/-- What is at a place that is no link. -/
def objectAt? (tree : FileTree) (place : Place) : Option Object :=
  match tree.nodeAt? place with
  | some (.file number) => some (.file (tree.contentOf number))
  | some .folder => some .folder
  | some .sink => some .sink
  | _ => none

/-! ### Following a path -/

def greatestNameLength : Nat := 255

def greatestPathLength : Nat := 4095

/-- How many links are followed for one path. -/
def greatestLinkCount : Nat := 40

/-- Where one name leads. Above the root there is the root. -/
def step (place : Place) (name : Name) : Place :=
  if name = [] ∨ name = Path.here then place
  else if name = Path.above then place.dropLast
  else place ++ [name]

/-- Follows one name, which must lead from a folder to something that exists. -/
def enter (tree : FileTree) (folder : Place) (name : Name) : Except FileError Place :=
  if !tree.isFolder folder then .error .notDirectory
  else if name.length > greatestNameLength then .error .nameTooLong
  else if (tree.nodeAt? (step folder name)).isSome then .ok (step folder name)
  else .error .notFound

/-- Follows the last name of a file that is to be written, which may be new. Only slashes can be
behind the name, and they ask for a folder. -/
def enterNew (tree : FileTree) (folder : Place) (name : Name) (behind : List Name) :
    Except FileError Place :=
  if !tree.isFolder folder then .error .notDirectory
  else if behind ≠ [] ∨ name = [] ∨ name = Path.here ∨ name = Path.above then .error .isDirectory
  else if name.length > greatestNameLength then .error .nameTooLong
  else if tree.isFolder (folder ++ [name]) then .error .isDirectory
  else .ok (folder ++ [name])

/-- What a path is followed for. -/
inductive Purpose where
  | reading | writing
  deriving DecidableEq, Repr

/-- How far names lead without a link. -/
inductive Progress where
  | arrived (place : Place)
  /-- A link in a folder, its target, and the names behind it. -/
  | link (folder : Place) (target : Path) (behind : List Name)
  deriving DecidableEq, Repr

/-- Follows a name that has others behind it. -/
def enterFor (tree : FileTree) (purpose : Purpose) (folder : Place) (name : Name)
    (behind : List Name) : Except FileError Place :=
  if purpose = .writing ∧ behind.all List.isEmpty then tree.enterNew folder name behind
  else tree.enter folder name

def walk (tree : FileTree) (purpose : Purpose) : Place → List Name → Except FileError Progress
  | place, [] => .ok (.arrived place)
  | folder, name :: behind => do
    let place ← tree.enterFor purpose folder name behind
    match tree.nodeAt? place with
    | some (.link target) => .ok (.link folder target behind)
    | _ => tree.walk purpose place behind

/-- Where a path starts as seen from a folder. -/
def start (folder : Place) (path : Path) : Place := if path.isAbsolute then [] else folder

/-- Follows names and at most so many links, and tells how many more links could be followed. -/
def follow (tree : FileTree) (purpose : Purpose) (links : Nat) (place : Place)
    (names : List Name) : Except FileError (Place × Nat) := do
  match ← tree.walk purpose place names with
  | .arrived place => .ok (place, links)
  | .link folder target behind =>
    match links with
    | 0 => .error .tooManyLinks
    | links + 1 => tree.follow purpose links (start folder target) (target.names ++ behind)

/-- What is wrong with a path in itself. -/
def checkPath (path : Path) : Except FileError Unit :=
  if 0 ∈ path then .error .nullInName
  else if path = [] then .error .notFound
  else if path.length > greatestPathLength then .error .nameTooLong
  else .ok ()

/-- The place that a path leads to. -/
def locate (tree : FileTree) (purpose : Purpose) (path : Path) : Except FileError Place := do
  checkPath path
  let (place, _) ← tree.follow purpose greatestLinkCount (start tree.working path) path.names
  .ok place

/-! ### Reading -/

/-- What a path leads to, if anything is there. -/
def look? (tree : FileTree) (path : Path) : Option Object :=
  match tree.locate .reading path with
  | .ok place => tree.objectAt? place
  | .error _ => none

def readText (tree : FileTree) (path : Path) : Except FileError String := do
  let place ← tree.locate .reading path
  match tree.objectAt? place with
  | some (.file (.text value)) => .ok value
  | some (.file .binary) => .error .notText
  | some .folder => .error .isDirectory
  | some .sink => .ok ""
  | none => .error .notFound

/-! ### Writing -/

/-- The numbers of the files that have a place. -/
def numbers (tree : FileTree) : List Nat :=
  tree.entries.filterMap fun entry =>
    match entry.2 with
    | .file number => some number
    | _ => none

/-- A number that no file has. -/
def freshNumber (tree : FileTree) : Nat := tree.numbers.foldr max 0 + 1

def setContent (tree : FileTree) (number : Nat) (content : Content) : FileTree :=
  { tree with contents := (number, content) :: tree.contents }

def insert (tree : FileTree) (place : Place) (node : Node) : FileTree :=
  { tree with entries := tree.entries ++ [(place, node)] }

/-- Something new at a place. -/
def add (tree : FileTree) (place : Place) : Object → FileTree
  | .file content =>
    (tree.insert place (.file tree.freshNumber)).setContent tree.freshNumber content
  | .folder => tree.insert place .folder
  | .sink => tree.insert place .sink

/-- The tree that has the given files and folders in its working folder. -/
def inFolder (working : Place) (objects : List (Place × Object)) : FileTree :=
  objects.foldl (fun tree object => tree.add (working ++ object.1) object.2) ⟨working, [], []⟩

/-- Writes a file, which may be new, into a folder that is there. -/
def write (tree : FileTree) (path : Path) (content : String) : Except FileError FileTree := do
  let place ← tree.locate .writing path
  match tree.nodeAt? place with
  | some (.file number) => .ok (tree.setContent number (.text content))
  | some .sink => .ok tree
  | _ => .ok (tree.add place (.file (.text content)))

/-- The texts of the files that another tree does not have like this. -/
def changesSince (before tree : FileTree) : List (Place × String) :=
  tree.entries.filterMap fun entry =>
    match tree.objectAt? entry.1 with
    | some (.file (.text content)) =>
      if before.objectAt? entry.1 = some (.file (.text content)) then none
      else some (entry.1, content)
    | _ => none

end FileTree

end Blueprint
