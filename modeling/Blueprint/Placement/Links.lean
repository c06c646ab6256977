import Blueprint.Document.Basic
import Blueprint.Schematic.Basic

/-!
Links between the cells of a grid.
-/

namespace Blueprint.Placement

/-- Asks the game to find a name for the link itself. -/
def automaticName : String := "!!"

/-- The signed distance between two positions in a word of 32 bits. -/
def distance (origin target : Nat) : Int32 := .ofNat target - .ofNat origin

/-- The cells of a grid with their positions, the bottom row first. -/
def cellsFromBottom (grid : List (List String)) : List (String × Nat × Nat) :=
  (grid.reverse.zipIdx.map fun (row, y) => row.zipIdx.map fun (cell, x) => (cell, x, y)).flatten

/-- The links of a tile: for each name in turn, one to every cell of that name. -/
def links (names : List String) (grid : List (List String)) (x y : Nat) : List Link :=
  names.flatMap fun name =>
    ((cellsFromBottom grid).filter (·.1 = name)).map fun (_, cellX, cellY) =>
      ⟨⟨distance x cellX, distance y cellY⟩, automaticName⟩

def linksOf (block : BlockDecl) (grid : List (List String)) (x y : Nat) : List Link :=
  links (block.links.getD []) grid x y

end Blueprint.Placement
