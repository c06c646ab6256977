import Blueprint.OrderedMap

/-!
Source documents: a grid of short cell names, a declaration for each name, and what the text of the
document may refer to.
-/

namespace Blueprint

/-- The value of a constant. -/
inductive Constant where
  | text (value : String)
  | list (items : List String)
  deriving DecidableEq, Repr

def Constant.display : Constant → String
  | .text value => value
  | .list items => ", ".intercalate items

/-- The items of a list stand one after the other, with a comma and a space between them. -/
theorem Constant.toList_display_list (items : List String) :
    (Constant.list items).display.toList = [',', ' '].intercalate (items.map String.toList) :=
  String.toList_intercalate

example : (Constant.list ["a", "b, ", ""]).display = "a, b, , " := by decide

/-- Processor code: its lines, or the path of a file with them. -/
inductive Program where
  | lines (code : List String)
  | path (relative : String)
  deriving DecidableEq, Repr

/-- A configuration as declared; the kind is checked only when the configuration is needed. -/
structure ConfigDecl where
  kind : String
  value : String
  deriving DecidableEq, Repr

structure BlockDecl where
  id : String
  /-- Names of the cells that the block is linked to. -/
  links : Option (List String)
  config : Option ConfigDecl
  rotation : Option UInt8
  deriving DecidableEq, Repr

structure Info where
  name : String
  description : Option String
  labels : Option (List String)
  authors : List String
  version : String
  tags : Option (OrderedMap String)
  deriving DecidableEq

structure Tiles where
  /-- Rows of cell names, the top row first; the empty name marks an empty cell. -/
  grid : List (List String)
  blocks : OrderedMap BlockDecl
  programs : OrderedMap Program
  deriving DecidableEq

structure Document where
  info : Info
  tiles : Tiles
  consts : OrderedMap Constant
  deriving DecidableEq

def Tiles.height (tiles : Tiles) : Nat := tiles.grid.length

/-- The length of the longest row. -/
def Tiles.width (tiles : Tiles) : Nat := (tiles.grid.map List.length).foldl max 0

inductive ConfigKind where
  | item | liquid | unit | block | boolean | point | string | program
  deriving DecidableEq, Repr

def ConfigKind.all : List ConfigKind :=
  [.item, .liquid, .unit, .block, .boolean, .point, .string, .program]

def ConfigKind.name : ConfigKind → String
  | .item => "item"
  | .liquid => "liquid"
  | .unit => "unit"
  | .block => "block"
  | .boolean => "boolean"
  | .point => "point"
  | .string => "string"
  | .program => "program"

def ConfigKind.ofName? (name : String) : Option ConfigKind :=
  ConfigKind.all.find? (·.name = name)

end Blueprint
