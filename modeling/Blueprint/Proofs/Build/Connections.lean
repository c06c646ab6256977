import Blueprint.Proofs.Build.Processors
import Blueprint.Proofs.Catalog
import Blueprint.Proofs.Placement.Config
import Blueprint.Proofs.Placement.Power

/-!
Where the links of a built schematic lead. Each leads to a tile unless a placed declaration lists
the empty name in a grid with empty cells: then it leads to these, where no tile is.
-/

namespace Blueprint

open Traversal

/-- The offsets that a configuration links to; none if it has bytes that are no layout. -/
def BlockConfig.offsets? : BlockConfig → Option (List Point)
  | .pointArray points => some points
  | .bytes layout => (ProcessorLayout.decode layout).map fun read => read.2.map (·.offset)
  | _ => some []

/-- At an offset from a tile there is a tile. -/
def Schematic.Reaches (schematic : Schematic) (owner : Tile) (offset : Point) : Prop :=
  ∃ target ∈ schematic.tiles, (target.x : Int) = owner.x + offset.x.toInt ∧
    (target.y : Int) = owner.y + offset.y.toInt

/-- All links of all tiles lead to tiles. -/
def Schematic.Connected (schematic : Schematic) : Prop :=
  ∀ owner ∈ schematic.tiles, ∃ offsets, owner.config.offsets? = some offsets ∧
    ∀ offset ∈ offsets, schematic.Reaches owner offset

/-- All links of all tiles are distances to tiles, in words of 32 bits. -/
def Schematic.Wired (schematic : Schematic) : Prop :=
  ∀ owner ∈ schematic.tiles, ∃ offsets, owner.config.offsets? = some offsets ∧
    ∀ offset ∈ offsets, ∃ target ∈ schematic.tiles,
      offset = ⟨Placement.distance owner.x target.x, Placement.distance owner.y target.y⟩

namespace Placement

/-! ### The links in a configuration -/

/-- The links of a block become part of its configuration. -/
def UsesLinks (block : BlockDecl) : Prop :=
  (block.links.isSome ∧ block.id ∈ powerBlocks) ∨ ∃ name, Runs block name

section Config

variable {context : Context} {cell : String} {block : BlockDecl} {x y : Nat} {value : BlockConfig}

theorem offsets_of_uses (standard : context.codec = .standard)
    (success : config context cell block x y = .ok value)
    (uses : UsesLinks block) :
    value.offsets? =
      some ((linksOf block context.document.tiles.grid x y).map (·.offset)) := by
  rcases uses with ⟨linked, power⟩ | ⟨name, runs⟩
  · rw [config_of_power linked power] at success
    cases success
    rfl
  · rw [config_of_runs runs] at success
    obtain ⟨_, _, _, _, _, packed, rfl⟩ := program_ok_iff.mp success
    rw [BlockConfig.offsets?, ProcessorLayout.decode_encode (encode_of_pack standard packed)]
    rfl

theorem content_offsets {catalog : Catalog} {kind : ContentKind} {name : String}
    (success : content catalog kind name = .ok value) : value.offsets? = some [] := by
  obtain ⟨_, _, rfl⟩ := content_ok_iff.mp success
  rfl

theorem offsets_of_not_uses (success : config context cell block x y = .ok value)
    (unused : ¬UsesLinks block) : value.offsets? = some [] := by
  obtain ⟨unpowered, unprogrammed⟩ := not_or.mp unused
  rcases config_cases context cell block x y with ⟨powered, _⟩ | ⟨_, same⟩ | ⟨_, _, _, same⟩ |
    ⟨kind, source, _, configured, same⟩
  · exact absurd powered unpowered
  · cases same.symm.trans success
    rfl
  · cases same.symm.trans success
  · rw [same] at success
    rcases declared_cases context cell _ kind source with
      ⟨_, _, meaning⟩ | ⟨rfl, _⟩ | meaning | ⟨_, meaning, linkless⟩
    · exact content_offsets (meaning.symm.trans success)
    · exact absurd ⟨source, configured, unpowered⟩ unprogrammed
    · cases meaning.symm.trans success
    · cases meaning.symm.trans success
      rcases linkless with ⟨_, rfl⟩ | ⟨_, rfl⟩ | rfl <;> rfl

end Config

/-! ### Where links lead -/

theorem mem_flatten_iff {grid : List (List String)} {cell : String} :
    cell ∈ grid.flatten ↔ ∃ x y, cellAt grid x y = some cell := by
  rw [← cells_names, List.mem_map]
  constructor
  · rintro ⟨⟨name, x, y⟩, member, rfl⟩
    exact ⟨x, y, mem_cells_iff.mp member⟩
  · rintro ⟨x, y, here⟩
    exact ⟨(cell, x, y), mem_cells_iff.mpr here, rfl⟩

/-- Offsets are the distances to all cells of the listed names. -/
theorem mem_offsets_iff {names : List String} {grid : List (List String)} {x y : Nat}
    {offset : Point} :
    offset ∈ (links names grid x y).map (·.offset) ↔
      ∃ name ∈ names, ∃ goalX goalY, cellAt grid goalX goalY = some name ∧
        offset = ⟨distance x goalX, distance y goalY⟩ := by
  simp only [links_eq, List.mem_map, List.mem_flatMap, Prod.exists, mem_occurrences_iff]
  constructor
  · rintro ⟨_, ⟨name, listed, goalX, goalY, here, rfl⟩, rfl⟩
    exact ⟨name, listed, goalX, goalY, here, rfl⟩
  · rintro ⟨name, listed, goalX, goalY, here, rfl⟩
    exact ⟨_, ⟨name, listed, goalX, goalY, here, rfl⟩, rfl⟩

/-- A placed declaration lists the empty name, and there are cells of this name. -/
def LinksEmptyCells (tiles : Tiles) : Prop :=
  "" ∈ tiles.grid.flatten ∧ ∃ cell block, cell ∈ tiles.grid.flatten ∧ cell ≠ "" ∧
    tiles.blocks.get? cell = some block ∧ UsesLinks block ∧ "" ∈ block.links.getD []

section Compiled

variable {context : Context} {compiled : List (List (Option Tile))} {tags : OrderedMap String}

/-- The schematic that is assembled from a compiled grid. -/
def assembled (context : Context) (tags : OrderedMap String)
    (compiled : List (List (Option Tile))) : Schematic :=
  .ofGrid context.document.tiles.height context.document.tiles.width tags compiled

theorem wired_of_whole (standard : context.codec = .standard)
    (success : grid context = .ok compiled)
    (whole : ¬LinksEmptyCells context.document.tiles) :
    (assembled context tags compiled).Wired := by
  intro owner member
  obtain ⟨cell, stands, occupied, made⟩ := tile_of_mem success member
  obtain ⟨block, declared, _, configured, _⟩ := tile_ok_iff.mp made
  by_cases uses : UsesLinks block
  · refine ⟨_, offsets_of_uses standard configured uses, ?_⟩
    intro offset linked
    obtain ⟨name, listed, goalX, goalY, here, rfl⟩ := mem_offsets_iff.mp linked
    have named : name ≠ "" := by
      rintro rfl
      exact whole ⟨mem_flatten_iff.mpr ⟨goalX, goalY, here⟩, cell, block,
        mem_flatten_iff.mpr ⟨_, _, stands⟩, occupied, declared, uses, listed⟩
    obtain ⟨target, present, filled⟩ := exists_tile success here named
    obtain ⟨_, _, _, _, _, rfl, rfl, _⟩ := tile_ok_iff.mp filled
    exact ⟨target, present, rfl⟩
  · exact ⟨[], offsets_of_not_uses configured uses, nofun⟩

/-- At the end of a distance inside a grid is a tile exactly if the cell there has a name. -/
theorem reaches_iff (success : grid context = .ok compiled)
    (low : context.document.tiles.height < 2147483648)
    (narrow : context.document.tiles.width < 2147483648) {owner : Tile} {cell name : String}
    (stands : cellAt context.document.tiles.grid owner.x owner.y = some cell) {x y : Nat}
    (here : cellAt context.document.tiles.grid x y = some name) :
    (assembled context tags compiled).Reaches owner ⟨distance owner.x x, distance owner.y y⟩ ↔
      name ≠ "" := by
  obtain ⟨startColumn, startRow⟩ := cellAt_inside stands
  obtain ⟨column, row⟩ := cellAt_inside here
  have across := distance_toInt (Nat.lt_trans startColumn narrow) (Nat.lt_trans column narrow)
  have up := distance_toInt (Nat.lt_trans startRow low) (Nat.lt_trans row low)
  unfold Schematic.Reaches
  simp only [across, up]
  constructor
  · rintro ⟨target, member, atX, atY⟩
    obtain ⟨found, cellHere, occupied, _⟩ := tile_of_mem success member
    have sameX : target.x = x := by omega
    have sameY : target.y = y := by omega
    rw [sameX, sameY, here] at cellHere
    cases cellHere
    exact occupied
  · intro occupied
    obtain ⟨target, member, made⟩ := exists_tile success here occupied
    obtain ⟨_, _, _, _, _, atX, atY, _⟩ := tile_ok_iff.mp made
    exact ⟨target, member, by omega, by omega⟩

theorem connected_iff (standard : context.codec = .standard)
    (success : grid context = .ok compiled)
    (low : context.document.tiles.height < 2147483648)
    (narrow : context.document.tiles.width < 2147483648) :
    (assembled context tags compiled).Connected ↔ ¬LinksEmptyCells context.document.tiles := by
  constructor
  · rintro connected ⟨empty, cell, block, placed, occupied, declared, uses, listed⟩
    obtain ⟨x, y, stands⟩ := mem_flatten_iff.mp placed
    obtain ⟨emptyX, emptyY, hole⟩ := mem_flatten_iff.mp empty
    -- The tile of the declaration has a link to the empty cell, where there is no tile.
    obtain ⟨owner, member, made⟩ := exists_tile success stands occupied
    obtain ⟨_, found, _, configured, _, rfl, rfl, _⟩ := tile_ok_iff.mp made
    cases declared.symm.trans found
    obtain ⟨offsets, read, reached⟩ := connected owner member
    rw [offsets_of_uses standard configured uses, Option.some.injEq] at read
    have link : (⟨distance owner.x emptyX, distance owner.y emptyY⟩ : Point) ∈ offsets := by
      rw [← read, linksOf, mem_offsets_iff]
      exact ⟨"", listed, emptyX, emptyY, hole, rfl⟩
    exact (reaches_iff success low narrow stands hole).mp (reached _ link) rfl
  · intro whole owner member
    obtain ⟨offsets, read, wired⟩ := wired_of_whole standard success whole owner member
    obtain ⟨_, stands, _, _⟩ := tile_of_mem success member
    refine ⟨offsets, read, fun offset linked => ?_⟩
    obtain ⟨target, present, rfl⟩ := wired offset linked
    obtain ⟨_, here, occupied, _⟩ := tile_of_mem success present
    exact (reaches_iff success low narrow stands here).mpr occupied

end Compiled

end Placement

/-- All links of a built schematic lead to tiles exactly if no placed declaration that uses its
links lists the empty name while the grid has empty cells. In a grid too large for words of 32 bits
the links are then still the distances to tiles, as far as such a word tells. The codec is the
standard one. -/
theorem build_connected_iff {settings : Settings} {text : String} {schematic : Schematic}
    (standard : settings.codec = .standard) (success : build settings text = .ok schematic) :
    ∃ document, Build.readDocument settings text = .ok document ∧
      let tiles := (Build.context settings document).document.tiles
      (schematic.height < 2147483648 → schematic.width < 2147483648 →
        (schematic.Connected ↔ ¬Placement.LinksEmptyCells tiles)) ∧
      (¬Placement.LinksEmptyCells tiles → schematic.Wired) := by
  obtain ⟨document, read, assembled⟩ := Build.build_ok_iff.mp success
  obtain ⟨_, compiled, filled, rfl⟩ := Build.assemble_ok_iff.mp assembled
  exact ⟨document, read, Placement.connected_iff standard filled,
    Placement.wired_of_whole standard filled⟩

/-- A processor with two links in a grid without empty cells. -/
theorem build_connected_iff_linked : Build.plainSettings.codec = .standard ∧
    build Build.plainSettings linkedText = .ok linkedSchematic ∧
    linkedSchematic.height < 2147483648 ∧ linkedSchematic.width < 2147483648 ∧
    ¬Placement.LinksEmptyCells linkedDocument.tiles ∧ linkedSchematic.Connected := by
  have built := ok_of_toOption linked_built
  have low : linkedSchematic.height < 2147483648 := by decide
  have narrow : linkedSchematic.width < 2147483648 := by decide
  have whole : ¬Placement.LinksEmptyCells linkedDocument.tiles :=
    fun linksEmpty => absurd linksEmpty.1 (by decide)
  obtain ⟨document, read, connected, _⟩ := build_connected_iff rfl built
  cases read.symm.trans (ok_of_toOption linked_read)
  have unchanged :
      (Build.context Build.plainSettings linkedDocument).document = linkedDocument := by
    decide +kernel
  rw [unchanged] at connected
  exact ⟨rfl, built, low, narrow, whole, (connected low narrow).mpr whole⟩

/-- A power node that is linked to the empty name, beside an empty cell. -/
def danglingText : String :=
  "\x7b\"info\":\x7b\"name\":\"n\",\"authors\":[],\"version\":\"1\"\x7d,\"tiles\":\x7b" ++
  "\"grid\":[[\"n\",\"\"]],\"blocks\":\x7b\"n\":\x7b\"id\":\"power-node\",\"links\":[\"\"]\x7d\x7d\x7d\x7d"

def danglingTile : Tile := ⟨"power-node", 0, 0, .pointArray [⟨1, 0⟩], 0⟩

def danglingDocument : Document where
  info := ⟨"n", none, none, [], "1", none⟩
  tiles := {
    grid := [["n", ""]]
    blocks := .ofList [("n", ⟨"power-node", some [""], none, none⟩)]
    programs := .empty }
  consts := .empty

theorem dangling_read :
    (Build.readDocument Settings.standard danglingText).toOption = some danglingDocument := by
  have chars : danglingText.toList = _ ++ _ := String.toList_append.trans
    (congrArg₂ (· ++ ·) String.toList_ofList String.toList_ofList)
  unfold Build.readDocument parseSource Json.read
  rw [chars]
  decide +kernel

theorem dangling_grid : Placement.grid (Build.context Settings.standard danglingDocument) =
    .ok [[some danglingTile, none]] := by
  have made : Placement.tile (Build.context Settings.standard danglingDocument) "n" 0 0 =
      .ok danglingTile :=
    Placement.tile_ok_iff.mpr ⟨⟨"power-node", some [""], none, none⟩, rfl,
      Catalog.bundled_has_router_and_power_node.2, rfl, rfl, rfl, rfl, rfl⟩
  have node : Placement.place (Build.context Settings.standard danglingDocument) "n" 0 0 =
      .ok (some danglingTile) := by
    rw [Placement.place, if_neg (by decide), made]
    rfl
  have only : Placement.row (Build.context Settings.standard danglingDocument) ["n", ""] 0 =
      .ok [some danglingTile, none] :=
    mapM_ok_iff.mpr (.cons node (.cons rfl .nil))
  exact mapM_ok_iff.mpr (.cons only .nil)

theorem dangling_tiles : (build Settings.standard danglingText).toOption.map Schematic.tiles =
    some [danglingTile] := by
  have assembled := Build.assemble_ok_iff.mpr ⟨rfl, _, dangling_grid, rfl⟩
  rw [Build.build_ok_iff.mpr ⟨_, ok_of_toOption dangling_read, assembled⟩]
  rfl

/-- Not every link of a built schematic leads to a tile. -/
theorem link_to_empty_cell : ∃ schematic, build Settings.standard danglingText = .ok schematic ∧
    ¬schematic.Connected := by
  obtain ⟨schematic, success, tiles⟩ := Option.map_eq_some_iff.mp dangling_tiles
  refine ⟨schematic, ok_of_toOption success, fun connected => ?_⟩
  unfold Schematic.Connected Schematic.Reaches at connected
  rw [tiles] at connected
  obtain ⟨offsets, read, reached⟩ := connected danglingTile List.mem_cons_self
  cases read
  obtain ⟨target, member, across, _⟩ := reached ⟨1, 0⟩ List.mem_cons_self
  cases List.mem_singleton.mp member
  exact absurd across (by decide)

end Blueprint
