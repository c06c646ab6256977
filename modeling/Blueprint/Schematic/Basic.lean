import Blueprint.Catalog.Basic

/-!
Compiled schematics. Positions count from the left and from the bottom.
-/

namespace Blueprint

structure Point where
  x : Int32
  y : Int32
  deriving DecidableEq, Repr

/-- A named link to another tile, by its offset from the owner. -/
structure Link where
  offset : Point
  name : String
  deriving DecidableEq, Repr

inductive BlockConfig where
  | null
  | content (kind : ContentKind) (id : UInt16)
  | boolean (value : Bool)
  | point (value : Point)
  | pointArray (points : List Point)
  | string (value : String)
  | bytes (content : List UInt8)
  deriving DecidableEq, Repr

structure Tile where
  block : String
  x : Nat
  y : Nat
  config : BlockConfig
  /-- Quarter turns counter-clockwise. -/
  rotation : UInt8
  deriving DecidableEq, Repr

structure Schematic where
  height : Nat
  width : Nat
  version : UInt8
  tags : OrderedMap String
  /-- Labels of the model; the labels that a user gives are a tag. -/
  labels : List String
  tiles : List Tile
  deriving DecidableEq

namespace Schematic

def currentVersion : UInt8 := 1

/-- Lists the tiles of a grid row by row and leaves out empty cells. -/
def ofGrid (height width : Nat) (tags : OrderedMap String) (grid : List (List (Option Tile))) :
    Schematic where
  height := height
  width := width
  version := currentVersion
  tags := tags
  labels := []
  tiles := grid.flatten.filterMap id

def name? (schematic : Schematic) : Option String := schematic.tags.get? "name"

def tileAt (schematic : Schematic) (x y : Nat) : Option Tile :=
  schematic.tiles.find? fun tile => tile.x = x ∧ tile.y = y

end Schematic

end Blueprint
