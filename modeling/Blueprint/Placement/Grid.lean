import Blueprint.Placement.Config

/-!
Placing the blocks of a grid. Cells are placed row by row from the top and from left to right, and
the first cell that cannot be placed stops the rest.
-/

namespace Blueprint.Placement

/-- The tile of a cell that is not empty. -/
def tile (context : Context) (cell : String) (x y : Nat) : Except PlacementError Tile :=
  match context.document.tiles.blocks.get? cell with
  | none => .error (.missingBlock cell)
  | some block =>
    if !context.catalog.hasBlock block.id then .error (.unknownBlock cell block.id)
    else do
      let config ← config context cell block x y
      .ok ⟨block.id, x, y, config, block.rotation.getD 0⟩

def place (context : Context) (cell : String) (x y : Nat) : Except PlacementError (Option Tile) :=
  if cell = "" then .ok none else do .ok (some (← tile context cell x y))

def row (context : Context) (cells : List String) (y : Nat) :
    Except PlacementError (List (Option Tile)) :=
  cells.zipIdx.mapM fun (cell, x) => place context cell x y

/-- The grid with a tile in place of every name. The bottom row has height zero. -/
def grid (context : Context) : Except PlacementError (List (List (Option Tile))) :=
  let tiles := context.document.tiles
  tiles.grid.zipIdx.mapM fun (cells, index) => row context cells (tiles.height - index - 1)

end Blueprint.Placement
