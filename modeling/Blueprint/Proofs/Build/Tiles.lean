import Blueprint.Proofs.Build.Stages
import Blueprint.Proofs.Placement.Grid

/-!
The tiles of a built schematic against the grid of its document.
-/

namespace Blueprint

/-- A schematic shows a grid: it has its size, and a tile for every cell that is not empty, whose
block is what `idOf` makes of the cell. -/
structure Schematic.Depicts (schematic : Schematic) (grid : List (List String))
    (idOf : String → Option String) : Prop where
  height : schematic.height = grid.length
  width : schematic.width = ((grid.map List.length).max?).getD 0
  one_each : schematic.tiles.length = grid.flatten.countP (· ≠ "")
  order : schematic.tiles.Pairwise fun a b => b.y < a.y ∨ b.y = a.y ∧ a.x < b.x
  inside : ∀ tile ∈ schematic.tiles, tile.x < schematic.width ∧ tile.y < schematic.height
  distinct : (schematic.tiles.map fun tile => (tile.x, tile.y)).Nodup
  found : ∀ x y, (schematic.tileAt x y).isSome ↔
    ∃ row cell, y < schematic.height ∧ grid[schematic.height - 1 - y]? = some row ∧
      row[x]? = some cell ∧ cell ≠ ""
  named : ∀ x y tile, schematic.tileAt x y = some tile →
    ∃ row cell, grid[schematic.height - 1 - y]? = some row ∧ row[x]? = some cell ∧
      idOf cell = some tile.block

theorem Schematic.tileAt_isSome_iff (schematic : Schematic) (x y : Nat) :
    (schematic.tileAt x y).isSome ↔ ∃ tile ∈ schematic.tiles, tile.x = x ∧ tile.y = y := by
  simp only [tileAt, List.find?_isSome, decide_eq_true_eq]

theorem Schematic.mem_of_tileAt {schematic : Schematic} {x y : Nat} {tile : Tile}
    (found : schematic.tileAt x y = some tile) :
    tile ∈ schematic.tiles ∧ tile.x = x ∧ tile.y = y :=
  ⟨List.mem_of_find?_eq_some found, by simpa using List.find?_some found⟩

namespace Placement

/-- What is assembled from a placed grid depicts it. -/
theorem depicts_of_grid {context : Context} {compiled : List (List (Option Tile))}
    (success : grid context = .ok compiled) (tags : OrderedMap String) :
    (Schematic.ofGrid context.document.tiles.height context.document.tiles.width tags
      compiled).Depicts context.document.tiles.grid
        fun cell => (context.document.tiles.blocks.get? cell).map BlockDecl.id := by
  have follow := tiles_follow success
  have stands {placed : Tile} (member : placed ∈ compiled.flatten.filterMap id) :=
    tile_of_mem success member
  refine ⟨rfl, width_eq _, ?_, follow, ?_, ?_, ?_, ?_⟩
  · rw [← occupied_length]
    exact (tiles_of_grid success).length_eq.symm
  · intro placed member
    obtain ⟨cell, here, _, _⟩ := stands member
    exact cellAt_inside here
  · exact List.pairwise_map.mpr (follow.imp Follows.ne)
  · intro x y
    rw [Schematic.tileAt_isSome_iff]
    constructor
    · rintro ⟨placed, member, rfl, rfl⟩
      obtain ⟨cell, here, named, _⟩ := stands member
      obtain ⟨row, below, rowAt, cellHere⟩ := cellAt_eq_some_iff.mp here
      exact ⟨row, cell, below, rowAt, cellHere, named⟩
    · rintro ⟨row, cell, below, rowAt, cellHere, named⟩
      have here := cellAt_eq_some_iff.mpr ⟨row, below, rowAt, cellHere⟩
      obtain ⟨placed, member, made⟩ := exists_tile success here named
      obtain ⟨_, _, _, _, _, atX, atY, _⟩ := tile_ok_iff.mp made
      exact ⟨placed, member, atX, atY⟩
  · intro x y placed found
    obtain ⟨member, rfl, rfl⟩ := Schematic.mem_of_tileAt found
    obtain ⟨cell, here, _, made⟩ := stands member
    obtain ⟨row, _, rowAt, cellHere⟩ := cellAt_eq_some_iff.mp here
    obtain ⟨block, declared, _, _, same, _⟩ := tile_ok_iff.mp made
    refine ⟨row, cell, rowAt, cellHere, ?_⟩
    rw [declared, Option.map_some, same]

end Placement

/-- A built schematic depicts the grid of its document as it is after substitution, and every tile
has the id of the declaration of its cell, also after substitution. -/
theorem build_depicts_grid {settings : Settings} {text : String} {schematic : Schematic}
    (success : build settings text = .ok schematic) :
    ∃ document, Build.readDocument settings text = .ok document ∧
      let table := Template.finalTable (Build.constants settings document) document
      schematic.Depicts (document.tiles.grid.map (·.map (Template.substitute table)))
        fun cell => (document.tiles.blocks.get? cell).map
          fun block => Template.substitute table block.id := by
  obtain ⟨document, read, assembled⟩ := Build.build_ok_iff.mp success
  obtain ⟨_, compiled, placed, rfl⟩ := Build.assemble_ok_iff.mp assembled
  refine ⟨document, read, ?_⟩
  have depicts := Placement.depicts_of_grid placed
    (Build.tags (Build.context settings document).document.info)
  simp only [Build.get?_context_blocks, Option.map_map] at depicts
  exact depicts

/-- Three rows of different lengths, with references in a cell and in the id of a block. -/
def raggedDocument : Document where
  info := ⟨"ragged", none, none, [], "1", none⟩
  tiles := {
    grid := [["$(k)", ""], [], ["r"]]
    blocks := .ofList [("r", ⟨"$(k)outer", none, none, none⟩)]
    programs := .empty }
  consts := .ofList [("k", .text "r")]

def raggedText : String := raggedDocument.encode.compact

theorem ragged_tiles : (build Build.plainSettings raggedText).toOption.map Schematic.tiles =
    some [⟨"router", 0, 2, .null, 0⟩, ⟨"router", 0, 0, .null, 0⟩] := by
  rw [raggedText, Build.build_plain]
  decide +kernel

theorem build_depicts_grid_ragged : ∃ schematic document,
    build Build.plainSettings raggedText = .ok schematic ∧
    schematic.tiles = [⟨"router", 0, 2, .null, 0⟩, ⟨"router", 0, 0, .null, 0⟩] ∧
    Build.readDocument Build.plainSettings raggedText = .ok document ∧
    let table := Template.finalTable (Build.constants Build.plainSettings document) document
    schematic.Depicts (document.tiles.grid.map (·.map (Template.substitute table)))
      fun cell => (document.tiles.blocks.get? cell).map
        fun block => Template.substitute table block.id := by
  obtain ⟨schematic, success, tiles⟩ := Option.map_eq_some_iff.mp ragged_tiles
  have built := Traversal.ok_of_toOption success
  obtain ⟨document, read, depicts⟩ := build_depicts_grid built
  exact ⟨schematic, document, built, tiles, read, depicts⟩

end Blueprint
