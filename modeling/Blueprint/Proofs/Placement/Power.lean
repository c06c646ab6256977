import Blueprint.Proofs.OrderedMap
import Blueprint.Proofs.Placement.Grid
import Blueprint.Proofs.Placement.Links

/-!
The connections of power blocks, seen from the placed tiles: they lead to the tiles of the linked
names, ordered by the positions of these tiles, and nothing else decides them.
-/

namespace Blueprint.Placement

open Text (bind_success)
open Traversal

/-! ### Tiles with the names of their cells -/

/-- The tiles of a compiled grid, each with the name in the same row and column of the grid. -/
def namedTiles (names : List (List String)) (compiled : List (List (Option Tile))) :
    List (String × Tile) :=
  (names.zip compiled).flatMap fun (cells, places) =>
    (cells.zip places).filterMap fun (cell, place) => place.map fun tile => (cell, tile)

/-- A tile with a name is the tile of a cell with this name. -/
def MadeFor (context : Context) (cell : String × Nat × Nat) (named : String × Tile) : Prop :=
  named.1 = cell.1 ∧ tileFor context cell = .ok named.2

theorem row_named {context : Context} {y : Nat} {cells : List String} {start : Nat}
    {places : List (Option Tile)}
    (made : List.Forall₂ (fun cell placed => place context cell.1 cell.2 y = .ok placed)
      (cells.zipIdx start) places) :
    List.Forall₂ (MadeFor context)
      (((cells.zipIdx start).map fun (cell, x) => (cell, x, y)).filter (·.1 ≠ ""))
      ((cells.zip places).filterMap fun (cell, place) => place.map fun tile => (cell, tile)) := by
  induction cells generalizing start places with
  | nil => exact .nil
  | cons cell rest ih =>
    rw [List.zipIdx_cons] at made ⊢
    cases made with
    | cons first others =>
      by_cases empty : cell = ""
      · rw [place, if_pos empty] at first
        cases first
        rw [List.map_cons, List.filter_cons_of_neg (by simpa using empty)]
        exact ih others
      · rw [place, if_neg empty] at first
        obtain ⟨tile, filled, first⟩ := bind_success first
        cases first
        rw [List.map_cons, List.filter_cons_of_pos (by simpa using empty)]
        exact .cons ⟨rfl, filled⟩ (ih others)

section Compiled

variable {context : Context} {compiled : List (List (Option Tile))}

/-- The tiles with their names stand for the occupied cells, in the same order. -/
theorem namedTiles_made (success : grid context = .ok compiled) :
    List.Forall₂ (MadeFor context) (occupied context.document.tiles.grid)
      (namedTiles context.document.tiles.grid compiled) := by
  have rows := mapM_ok_iff.mp success
  rw [occupied, cells, List.filter_flatMap]
  exact forall₂_flatMap_zip rows fun _ _ _ made => row_named (mapM_ok_iff.mp made)

/-- No tile is left out. -/
theorem namedTiles_tiles (success : grid context = .ok compiled) :
    (namedTiles context.document.tiles.grid compiled).map Prod.snd =
      compiled.flatten.filterMap id := by
  have both : (occupied context.document.tiles.grid).mapM (tileFor context) =
      .ok ((namedTiles context.document.tiles.grid compiled).map Prod.snd) := by
    rw [mapM_ok_iff, List.forall₂_map_right_iff]
    exact (namedTiles_made success).imp fun _ _ made => made.2
  rw [mapM_ok_iff.mpr (tiles_of_grid success)] at both
  exact (Except.ok.inj both).symm

theorem namedTiles_spots (success : grid context = .ok compiled) :
    occupied context.document.tiles.grid =
      (namedTiles context.document.tiles.grid compiled).map fun named =>
        (named.1, named.2.x, named.2.y) := by
  rw [← List.map_id (occupied context.document.tiles.grid)]
  exact map_eq_of_forall₂ (namedTiles_made success) fun cell named made =>
    Prod.ext made.1.symm (tileFor_position made.2)

theorem tile_of_named (success : grid context = .ok compiled) {cell : String} {owner : Tile}
    (placed : (cell, owner) ∈ namedTiles context.document.tiles.grid compiled) :
    cellAt context.document.tiles.grid owner.x owner.y = some cell ∧
      tile context cell owner.x owner.y = .ok owner := by
  obtain ⟨⟨name, x, y⟩, found, same, made⟩ := exists_left_of_mem (namedTiles_made success) placed
  cases tileFor_position made
  cases same
  exact ⟨(mem_occupied_iff.mp found).1, made⟩

end Compiled

/-! ### The tiles of a name in order -/

/-- In a lower row than the other tile, or in the same row and not to the right of it. -/
def lowerOrLeft (a b : Tile) : Bool := a.y < b.y || (a.y = b.y && a.x ≤ b.x)

/-- The tiles of a name by their positions, the lowest row first and from left to right. -/
def tilesNamed (names : List (List String)) (compiled : List (List (Option Tile)))
    (name : String) : List Tile :=
  (((namedTiles names compiled).filter (·.1 = name)).map Prod.snd).mergeSort lowerOrLeft

/-- The order of tiles, for positions. -/
def Precedes (a b : Nat × Nat) : Prop := a.2 < b.2 ∨ a.2 = b.2 ∧ a.1 ≤ b.1

theorem Precedes.antisymm {a b : Nat × Nat} (there : Precedes a b) (back : Precedes b a) :
    a = b := by
  unfold Precedes at there back
  exact Prod.ext (by omega) (by omega)

theorem occurrences_precede (grid : List (List String)) (name : String) :
    (occurrences grid name).Pairwise Precedes := by
  have cellsInOrder : (cellsFromBottom grid).Pairwise fun a b => Precedes a.2 b.2 := by
    rw [cellsFromBottom, ← List.flatMap_def]
    refine List.pairwise_flatMap.mpr ⟨?_, ?_⟩
    · intro row _
      refine List.pairwise_map.mpr ((zipIdx_increasing row.1).imp ?_)
      intro a b right
      exact Or.inr ⟨rfl, Nat.le_of_lt right⟩
    · refine (zipIdx_increasing grid.reverse).imp ?_
      intro lower upper below a here b there
      obtain ⟨_, _, rfl⟩ := List.mem_map.mp here
      obtain ⟨_, _, rfl⟩ := List.mem_map.mp there
      exact Or.inl below
  rw [occurrences_eq]
  exact List.pairwise_map.mpr (cellsInOrder.sublist List.filter_sublist)

theorem cellsFromBottom_perm (grid : List (List String)) :
    (cellsFromBottom grid).Perm (cells grid) := by
  rw [cellsFromBottom_eq, cells]
  exact (List.reverse_perm grid.zipIdx).flatMap_right _

theorem occupied_named {name : String} (nonempty : name ≠ "") (grid : List (List String)) :
    (occupied grid).filter (·.1 = name) = (cells grid).filter (·.1 = name) := by
  rw [occupied, List.filter_filter]
  refine List.filter_congr fun cell _ => ?_
  by_cases same : cell.1 = name
  · simp [same, nonempty]
  · simp [same]

theorem lowerOrLeft_iff {a b : Tile} :
    lowerOrLeft a b = true ↔ Precedes (a.x, a.y) (b.x, b.y) := by
  simp [lowerOrLeft, Precedes]

theorem tilesNamed_sorted (names : List (List String)) (compiled : List (List (Option Tile)))
    (name : String) :
    (tilesNamed names compiled name).Pairwise fun a b => Precedes (a.x, a.y) (b.x, b.y) := by
  refine (List.pairwise_mergeSort ?_ ?_ _).imp lowerOrLeft_iff.mp
  · intro a b c
    simp only [lowerOrLeft_iff, Precedes]
    omega
  · intro a b
    simp only [Bool.or_eq_true, lowerOrLeft_iff, Precedes]
    omega

section Compiled

variable {context : Context} {compiled : List (List (Option Tile))}

theorem tilesNamed_perm (success : grid context = .ok compiled) {name : String}
    (nonempty : name ≠ "") :
    ((tilesNamed context.document.tiles.grid compiled name).map fun tile => (tile.x, tile.y)).Perm
      (occurrences context.document.tiles.grid name) := by
  have unsorted :
      (((namedTiles context.document.tiles.grid compiled).filter (·.1 = name)).map Prod.snd).map
        (fun tile => (tile.x, tile.y)) =
      ((cells context.document.tiles.grid).filter (·.1 = name)).map Prod.snd := by
    rw [← occupied_named nonempty, namedTiles_spots success, List.filter_map, List.map_map,
      List.map_map]
    rfl
  rw [occurrences_eq]
  refine ((List.mergeSort_perm _ lowerOrLeft).map _).trans ?_
  rw [unsorted]
  exact (((cellsFromBottom_perm context.document.tiles.grid).filter _).map Prod.snd).symm

/-- The tiles of a name stand, in their order, where the name occurs. -/
theorem tilesNamed_positions (success : grid context = .ok compiled) {name : String}
    (nonempty : name ≠ "") :
    ((tilesNamed context.document.tiles.grid compiled name).map fun tile => (tile.x, tile.y)) =
      occurrences context.document.tiles.grid name := by
  -- Tiles go through the grid from the top, occurrences from the bottom; both are sorted.
  refine List.Perm.eq_of_pairwise (fun _ _ _ _ => Precedes.antisymm) ?_
    (occurrences_precede _ name) (tilesNamed_perm success nonempty)
  exact List.pairwise_map.mpr (tilesNamed_sorted _ compiled name)

end Compiled

/-! ### The configuration of a power block -/

/-- The context with another configuration, or none, in the declaration of a cell. -/
def Context.withConfig (context : Context) (cell : String) (config : Option ConfigDecl) :
    Context :=
  { context with document := { context.document with tiles := { context.document.tiles with
      blocks := context.document.tiles.blocks.mapValues fun name block =>
        if name = cell then { block with config := config } else block } } }

/-- A linked power block is configured by its links. -/
theorem config_of_power {context : Context} {cell : String} {block : BlockDecl} {x y : Nat}
    (linked : block.links.isSome) (power : block.id ∈ powerBlocks) :
    config context cell block x y =
      .ok (.pointArray ((linksOf block context.document.tiles.grid x y).map (·.offset))) := by
  unfold config
  exact if_pos ⟨linked, power⟩

/-- The declared configuration of a linked power block is not read. -/
theorem tile_withConfig {context : Context} {cell : String} {block : BlockDecl}
    (declared : context.document.tiles.blocks.get? cell = some block)
    (linked : block.links.isSome) (power : block.id ∈ powerBlocks) (other : Option ConfigDecl)
    (name : String) (x y : Nat) :
    tile (context.withConfig cell other) name x y = tile context name x y := by
  have found : (context.withConfig cell other).document.tiles.blocks.get? name =
      (context.document.tiles.blocks.get? name).map fun block =>
        if name = cell then { block with config := other } else block :=
    OrderedMap.get?_mapValues _ context.document.tiles.blocks name
  unfold tile
  rw [found]
  by_cases same : name = cell
  · have reconfigured : config (context.withConfig cell other) cell { block with config := other }
        x y = config context cell block x y :=
      Eq.trans (config_of_power linked power) (config_of_power linked power).symm
    rw [same, declared]
    simp only [Option.map_some, if_true, reconfigured]
    rfl
  · simp only [same, if_false, Option.map_id']
    rfl

theorem grid_withConfig {context : Context} {cell : String} {block : BlockDecl}
    (declared : context.document.tiles.blocks.get? cell = some block)
    (linked : block.links.isSome) (power : block.id ∈ powerBlocks) (other : Option ConfigDecl) :
    grid (context.withConfig cell other) = grid context := by
  unfold grid row place
  simp only [tile_withConfig declared linked power]
  rfl

/-- Offsets are the distances to the tiles of the names, which stand where the names occur. -/
theorem points_eq {context : Context} {compiled : List (List (Option Tile))}
    (success : grid context = .ok compiled)
    (low : context.document.tiles.height < 2147483648)
    (narrow : context.document.tiles.width < 2147483648) {x y : Nat} {cell : String}
    (here : cellAt context.document.tiles.grid x y = some cell) {names : List String}
    (nonempty : "" ∉ names) :
    ((links names context.document.tiles.grid x y).map fun link =>
        (link.offset.x.toInt, link.offset.y.toInt)) =
      names.flatMap fun name => (tilesNamed context.document.tiles.grid compiled name).map
        fun target => ((target.x : Int) - x, (target.y : Int) - y) := by
  obtain ⟨column, row⟩ := cellAt_inside here
  have reached := congrArg (List.map fun goal : Int × Int => (goal.1 - x, goal.2 - y))
    (links_destinations names low narrow column row)
  have offset : (fun goal : Int × Int => (goal.1 - x, goal.2 - y)) ∘ destination x y =
      fun link => (link.offset.x.toInt, link.offset.y.toInt) := by
    funext link
    simp only [Function.comp_apply, destination, Prod.mk.injEq]
    omega
  rw [List.map_map, offset, List.map_flatMap] at reached
  rw [reached]
  refine List.flatMap_congr fun name member => ?_
  have named : name ≠ "" := fun empty => nonempty (empty ▸ member)
  rw [← tilesNamed_positions success named, List.map_map, List.map_map]
  rfl

/-- The tile of a power block with links to names that are not empty is configured with the offsets
of all tiles of these names, name by name and each in order. Its declared configuration could be
any other, or none. -/
theorem power_block_reaches_named_tiles {context : Context} {compiled : List (List (Option Tile))}
    (success : grid context = .ok compiled)
    (low : context.document.tiles.height < 2147483648)
    (narrow : context.document.tiles.width < 2147483648) {cell : String} {owner : Tile}
    (placed : (cell, owner) ∈ namedTiles context.document.tiles.grid compiled)
    (power : owner.block ∈ powerBlocks) {block : BlockDecl}
    (declared : context.document.tiles.blocks.get? cell = some block) {names : List String}
    (linked : block.links = some names) (nonempty : "" ∉ names) :
    (namedTiles context.document.tiles.grid compiled).map Prod.snd =
      compiled.flatten.filterMap id ∧
    (∃ points, owner.config = .pointArray points ∧
      (points.map fun point => (point.x.toInt, point.y.toInt)) =
        names.flatMap fun name => (tilesNamed context.document.tiles.grid compiled name).map
          fun target => ((target.x : Int) - owner.x, (target.y : Int) - owner.y)) ∧
    ∀ other, grid (context.withConfig cell other) = .ok compiled := by
  obtain ⟨here, made⟩ := tile_of_named success placed
  obtain ⟨_, found, _, configured, same, _⟩ := tile_ok_iff.mp made
  cases declared.symm.trans found
  have isLinked : block.links.isSome := by rw [linked]; rfl
  have isPower : block.id ∈ powerBlocks := same ▸ power
  refine ⟨namedTiles_tiles success, ?_, ?_⟩
  · rw [config_of_power isLinked isPower, Except.ok.injEq] at configured
    refine ⟨_, configured.symm, ?_⟩
    rw [List.map_map, linksOf, linked, Option.getD_some]
    exact points_eq success low narrow here nonempty
  · intro other
    rw [grid_withConfig declared isLinked isPower, success]

/-- A power node above and between the blocks that it is linked to, one name of them twice, with a
configuration of no known kind. -/
def hubContext : Context where
  document := {
    info := ⟨"hub", none, none, [], "1", none⟩
    tiles := {
      grid := [["a", "n", ""], [], ["", "b", "a"]]
      blocks := .ofList [
        ("n", ⟨"power-node", some ["a", "b", "a"], some ⟨"colour", "red"⟩, none⟩),
        ("a", ⟨"router", none, none, none⟩),
        ("b", ⟨"router", none, none, some 1⟩)]
      programs := .empty }
    consts := .empty }
  catalog := {
    name := none
    items := .empty
    blocks := .ofList [("router", 0), ("power-node", 1)]
    liquids := .empty
    units := .empty }
  shop := { files := .empty, base := Path.here, compiler := noCompiler, constants := .empty }
  codec := .standard

def hub : Tile :=
  ⟨"power-node", 1, 2, .pointArray [⟨1, -2⟩, ⟨-1, 0⟩, ⟨0, -2⟩, ⟨1, -2⟩, ⟨-1, 0⟩], 0⟩

def hubTiles : List (List (Option Tile)) :=
  [[some ⟨"router", 0, 2, .null, 0⟩, some hub, none], [],
    [none, some ⟨"router", 1, 0, .null, 1⟩, some ⟨"router", 2, 0, .null, 0⟩]]

theorem hub_compiled : grid hubContext = .ok hubTiles :=
  ok_of_toOption (by decide +kernel)

theorem power_block_reaches_named_tiles_hub :
    grid hubContext = .ok hubTiles ∧
    hubContext.document.tiles.height < 2147483648 ∧
    hubContext.document.tiles.width < 2147483648 ∧
    ("n", hub) ∈ namedTiles hubContext.document.tiles.grid hubTiles ∧
    hub.block ∈ powerBlocks ∧
    (∃ points, hub.config = .pointArray points ∧
      (points.map fun point => (point.x.toInt, point.y.toInt)) =
        ["a", "b", "a"].flatMap fun name =>
          (tilesNamed hubContext.document.tiles.grid hubTiles name).map
            fun target => ((target.x : Int) - hub.x, (target.y : Int) - hub.y)) ∧
    ∀ other, grid (hubContext.withConfig "n" other) = .ok hubTiles := by
  have low : hubContext.document.tiles.height < 2147483648 := by decide
  have narrow : hubContext.document.tiles.width < 2147483648 := by decide
  have placed : ("n", hub) ∈ namedTiles hubContext.document.tiles.grid hubTiles := by decide
  have power : hub.block ∈ powerBlocks := by decide
  have declared : hubContext.document.tiles.blocks.get? "n" =
      some ⟨"power-node", some ["a", "b", "a"], some ⟨"colour", "red"⟩, none⟩ := by decide
  have reached := power_block_reaches_named_tiles hub_compiled low narrow placed power declared rfl
    (by decide)
  exact ⟨hub_compiled, low, narrow, placed, power, reached.2⟩

end Blueprint.Placement
