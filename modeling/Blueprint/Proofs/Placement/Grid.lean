import Blueprint.Placement.Grid
import Blueprint.Proofs.Placement.Cells
import Blueprint.Proofs.Placement.Config

/-!
The tiles of a grid. They stand for the occupied cells one to one and in the same order. A grid
without tiles has a first cell that cannot be placed, and no other part of the context matters but
what its cells look up.
-/

namespace Blueprint.Placement

open Text (bind_success)
open Traversal

/-- What the tile of a cell says, and what must hold for the cell to have one. -/
theorem tile_ok_iff {context : Context} {cell : String} {x y : Nat} {placed : Tile} :
    tile context cell x y = .ok placed ↔
      ∃ block, context.document.tiles.blocks.get? cell = some block ∧
        context.catalog.hasBlock block.id = true ∧
        config context cell block x y = .ok placed.config ∧
        placed.block = block.id ∧ placed.x = x ∧ placed.y = y ∧
        placed.rotation = block.rotation.getD 0 := by
  unfold tile
  constructor
  · intro success
    split at success
    · cases success
    · next block found =>
      split at success
      · cases success
      · next known =>
        obtain ⟨value, resolved, success⟩ := bind_success success
        cases success
        exact ⟨block, found, by simpa using known, resolved, rfl, rfl, rfl, rfl⟩
  · cases placed
    rintro ⟨block, found, known, resolved, rfl, rfl, rfl, rfl⟩
    simp only [found, known, Bool.not_true, Bool.false_eq_true, if_false, resolved]
    rfl

/-- A cell has no tile for an ordinary reason, or because its block cannot be configured. -/
theorem tile_error {context : Context} {cell : String} {x y : Nat} {problem : PlacementError}
    (failure : tile context cell x y = .error problem) :
    (∃ block, context.document.tiles.blocks.get? cell = some block ∧
      config context cell block x y = .error problem) ∨ Ordinary problem := by
  unfold tile at failure
  split at failure
  · cases failure
    exact .inr (by simp [Ordinary])
  · next block declared =>
    split at failure
    · cases failure
      exact .inr (by simp [Ordinary])
    · rcases bind_error_iff.mp failure with failed | ⟨_, _, impossible⟩
      · exact .inl ⟨block, declared, failed⟩
      · cases impossible

theorem place_error_iff {context : Context} {cell : String} {x y : Nat}
    {problem : PlacementError} : place context cell x y = .error problem ↔
      cell ≠ "" ∧ tile context cell x y = .error problem := by
  unfold place
  by_cases empty : cell = ""
  · simp [empty]
  · rw [if_neg empty, bind_error_iff]
    simp [empty]

/-- The place of a cell, as the grid calls for it. -/
def placeAt (context : Context) (cell : String × Nat × Nat) :
    Except PlacementError (Option Tile) :=
  place context cell.1 cell.2.1 cell.2.2

def tileFor (context : Context) (cell : String × Nat × Nat) : Except PlacementError Tile :=
  tile context cell.1 cell.2.1 cell.2.2

/-- The rows of a grid are placed as one list of cells would be. -/
theorem grid_flatten (context : Context) :
    (grid context).map List.flatten =
      (cells context.document.tiles.grid).mapM (placeAt context) := by
  rw [cells, mapM_flatMap]
  simp only [List.mapM_map]
  rfl

/-- Empty cells are passed over, all others have their tile. -/
theorem tiles_of_places {context : Context} {list : List (String × Nat × Nat)}
    {places : List (Option Tile)} (success : list.mapM (placeAt context) = .ok places) :
    List.Forall₂ (fun cell placed => tileFor context cell = .ok placed)
      (list.filter (·.1 ≠ "")) (places.filterMap id) := by
  induction list generalizing places with
  | nil =>
    cases success
    exact .nil
  | cons cell rest ih =>
    rw [List.mapM_cons] at success
    obtain ⟨here, first, success⟩ := bind_success success
    obtain ⟨others, behind, success⟩ := bind_success success
    cases success
    by_cases empty : cell.1 = ""
    · rw [placeAt, place, if_pos empty] at first
      cases first
      rw [List.filter_cons_of_neg (by simpa using empty), List.filterMap_cons_none rfl]
      exact ih behind
    · rw [placeAt, place, if_neg empty] at first
      obtain ⟨placed, made, first⟩ := bind_success first
      cases first
      rw [List.filter_cons_of_pos (by simpa using empty)]
      exact .cons made (ih behind)

/-- The tiles of a grid that could be placed, cell by cell. -/
theorem tiles_of_grid {context : Context} {compiled : List (List (Option Tile))}
    (success : grid context = .ok compiled) :
    List.Forall₂ (fun cell placed => tileFor context cell = .ok placed)
      (occupied context.document.tiles.grid) (compiled.flatten.filterMap id) := by
  have flat := grid_flatten context
  rw [success] at flat
  exact tiles_of_places flat.symm

/-- The tile of a cell stands where the cell is. -/
theorem tileFor_position {context : Context} {cell : String × Nat × Nat} {placed : Tile}
    (made : tileFor context cell = .ok placed) : cell.2 = (placed.x, placed.y) := by
  obtain ⟨_, _, _, _, _, x, y, _⟩ := tile_ok_iff.mp made
  rw [x, y]

theorem positions_of_grid {context : Context} {compiled : List (List (Option Tile))}
    (success : grid context = .ok compiled) :
    (occupied context.document.tiles.grid).map Prod.snd =
      (compiled.flatten.filterMap id).map fun placed => (placed.x, placed.y) :=
  map_eq_of_forall₂ (tiles_of_grid success) fun _ _ => tileFor_position

/-- Tiles are listed row by row from the top and from left to right. -/
theorem tiles_follow {context : Context} {compiled : List (List (Option Tile))}
    (success : grid context = .ok compiled) :
    (compiled.flatten.filterMap id).Pairwise fun a b => Follows (a.x, a.y) (b.x, b.y) := by
  have ordered := List.pairwise_map.mpr (occupied_follow context.document.tiles.grid)
  rw [positions_of_grid success] at ordered
  exact List.pairwise_map.mp ordered

/-- Every tile is the tile of an occupied cell. -/
theorem tile_of_mem {context : Context} {compiled : List (List (Option Tile))}
    (success : grid context = .ok compiled) {placed : Tile}
    (member : placed ∈ compiled.flatten.filterMap id) :
    ∃ cell, cellAt context.document.tiles.grid placed.x placed.y = some cell ∧ cell ≠ "" ∧
      tile context cell placed.x placed.y = .ok placed := by
  obtain ⟨⟨cell, x, y⟩, found, made⟩ := exists_left_of_mem (tiles_of_grid success) member
  obtain ⟨here, named⟩ := mem_occupied_iff.mp found
  cases tileFor_position made
  exact ⟨cell, here, named, made⟩

/-- Every occupied cell has a tile. -/
theorem exists_tile {context : Context} {compiled : List (List (Option Tile))}
    (success : grid context = .ok compiled) {cell : String} {x y : Nat}
    (here : cellAt context.document.tiles.grid x y = some cell) (named : cell ≠ "") :
    ∃ placed ∈ compiled.flatten.filterMap id, tile context cell x y = .ok placed :=
  exists_right_of_mem (tiles_of_grid success) (mem_occupied_iff.mpr ⟨here, named⟩)

/-! ### The first cell without a tile -/

/-- The cell at a position cannot be placed, and all cells before it can, row by row from the top
and from left to right. -/
def FailsFirst (context : Context) (x y : Nat) (problem : PlacementError) : Prop :=
  ∃ before cell after, cells context.document.tiles.grid = before ++ (cell, x, y) :: after ∧
    (∀ earlier ∈ before, Succeeds (placeAt context earlier)) ∧
    placeAt context (cell, x, y) = .error problem

/-- A grid fails as its first cell that cannot be placed does. -/
theorem grid_error_iff {context : Context} {problem : PlacementError} :
    grid context = .error problem ↔ ∃ x y, FailsFirst context x y problem := by
  have flat := grid_flatten context
  have same : grid context = .error problem ↔
      (cells context.document.tiles.grid).mapM (placeAt context) = .error problem := by
    rw [← flat]
    cases grid context <;> simp [Except.map]
  rw [same, mapM_error_iff]
  constructor
  · rintro ⟨before, ⟨cell, x, y⟩, after, split, passed, failed⟩
    exact ⟨x, y, before, cell, after, split, passed, failed⟩
  · rintro ⟨x, y, before, cell, after, split, passed, failed⟩
    exact ⟨before, (cell, x, y), after, split, passed, failed⟩

/-- A grid that cannot be placed has an occupied cell that cannot. -/
theorem exists_unplaced {context : Context} {problem : PlacementError}
    (failure : grid context = .error problem) :
    ∃ cell x y, cellAt context.document.tiles.grid x y = some cell ∧ cell ≠ "" ∧
      tile context cell x y = .error problem := by
  obtain ⟨x, y, before, cell, after, split, _, failed⟩ := grid_error_iff.mp failure
  obtain ⟨named, failed⟩ := place_error_iff.mp failed
  have inside : (cell, x, y) ∈ cells context.document.tiles.grid := by
    rw [split]
    exact List.mem_append_right _ List.mem_cons_self
  exact ⟨cell, x, y, mem_cells_iff.mp inside, named, failed⟩

/-! ### What a grid depends on -/

/-- Two contexts with one grid lead to the same outcome if they do so for every cell with a name. -/
theorem grid_congr {context other : Context}
    (same : other.document.tiles.grid = context.document.tiles.grid)
    (each : ∀ cell ∈ context.document.tiles.grid.flatten, cell ≠ "" →
      ∀ x y, tile other cell x y = tile context cell x y) : grid other = grid context := by
  have sameHeight : other.document.tiles.height = context.document.tiles.height :=
    congrArg List.length same
  unfold grid row
  simp only [same, sameHeight]
  apply mapM_congr
  intro row rowInside
  apply mapM_congr
  intro cell cellInside
  have inside := List.mem_flatten_of_mem (List.fst_mem_of_mem_zipIdx rowInside)
    (List.fst_mem_of_mem_zipIdx cellInside)
  unfold place
  by_cases empty : cell.1 = ""
  · rw [if_pos empty, if_pos empty]
  · rw [if_neg empty, if_neg empty, each cell.1 inside empty]

end Blueprint.Placement
