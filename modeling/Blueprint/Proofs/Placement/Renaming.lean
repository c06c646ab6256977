import Mathlib.Data.List.Nodup
import Blueprint.Proofs.OrderedMap
import Blueprint.Proofs.Placement.Grid
import Blueprint.Proofs.Placement.Power

/-!
New names for blocks. Cells, declarations and links only compare names with each other and with the
empty name, so names that stay different lead to the same tiles, and the first cell that cannot be
placed stays the same. Only the names in its error are new.
-/

namespace Blueprint

/-- The declaration with new names in its links. -/
def BlockDecl.rename (f : String → String) (block : BlockDecl) : BlockDecl :=
  { block with links := block.links.map (·.map f) }

/-- New names in all cells, for all declarations and in all links. -/
def Tiles.rename (f : String → String) (tiles : Tiles) : Tiles :=
  { tiles with
    grid := tiles.grid.map (·.map f)
    blocks := .ofList (tiles.blocks.entries.map fun entry => (f entry.1, entry.2.rename f)) }

/-- The names of blocks, wherever they stand. -/
def Tiles.blockNames (tiles : Tiles) : List String :=
  tiles.grid.flatten ++ tiles.blocks.keys
    ++ tiles.blocks.entries.flatMap fun entry => entry.2.links.getD []

/-- New names keep the names of blocks apart, and only the empty name becomes empty. -/
structure Tiles.Renames (tiles : Tiles) (f : String → String) : Prop where
  apart : ∀ a ∈ tiles.blockNames, ∀ b ∈ tiles.blockNames, f a = f b → a = b
  empty : ∀ a ∈ tiles.blockNames, f a = "" ↔ a = ""

/-- The error with the new name of the block that it is about. -/
def PlacementError.rename (f : String → String) : PlacementError → PlacementError
  | .missingBlock cell => .missingBlock (f cell)
  | .unknownBlock cell id => .unknownBlock (f cell) id
  | .codec cell cause => .codec (f cell) cause
  | problem => problem

namespace Placement

open Traversal

def Context.rename (f : String → String) (context : Context) : Context :=
  { context with document := { context.document with tiles := context.document.tiles.rename f } }

variable {context : Context} {f : String → String} {tiles : Tiles}

/-! ### The names of tiles -/

theorem mem_blockNames_of_cell {cell : String} (member : cell ∈ tiles.grid.flatten) :
    cell ∈ tiles.blockNames :=
  List.mem_append_left _ (List.mem_append_left _ member)

theorem mem_blockNames_of_key {key : String} (member : key ∈ tiles.blocks.keys) :
    key ∈ tiles.blockNames :=
  List.mem_append_left _ (List.mem_append_right _ member)

theorem mem_blockNames_of_link {cell link : String} {block : BlockDecl}
    (declared : tiles.blocks.get? cell = some block) (member : link ∈ block.links.getD []) :
    link ∈ tiles.blockNames :=
  List.mem_append_right _
    (List.mem_flatMap.mpr ⟨(cell, block), OrderedMap.mem_of_lookup declared, member⟩)

/-- A declaration is found under its new name. -/
theorem get?_rename (renames : tiles.Renames f) {cell : String} (named : cell ∈ tiles.blockNames) :
    (tiles.rename f).blocks.get? (f cell) =
      (tiles.blocks.get? cell).map (BlockDecl.rename f) := by
  -- Keys that stay apart are not merged, so the entries are a map as they stand.
  have distinct : ((tiles.blocks.entries.map fun entry =>
      (f entry.1, entry.2.rename f)).map Prod.fst).Nodup := by
    have keys : ((tiles.blocks.entries.map fun entry => (f entry.1, entry.2.rename f)).map
        Prod.fst) = tiles.blocks.keys.map f := by
      simp only [OrderedMap.keys, List.map_map]
      rfl
    rw [keys]
    refine List.Nodup.map_on ?_ tiles.blocks.distinct
    intro a inKeys b alsoInKeys
    exact renames.apart a (mem_blockNames_of_key inKeys) b (mem_blockNames_of_key alsoInKeys)
  rw [Tiles.rename, OrderedMap.ofList_of_nodup distinct]
  apply OrderedMap.lookup_mapKeys
  intro other inKeys
  exact renames.apart cell named other (mem_blockNames_of_key inKeys)

/-! ### Links -/

theorem cellsFromBottom_map (f : String → String) (grid : List (List String)) :
    cellsFromBottom (grid.map (·.map f)) =
      (cellsFromBottom grid).map fun cell => (f cell.1, cell.2) := by
  rw [cellsFromBottom, cellsFromBottom, ← List.flatMap_def, ← List.flatMap_def, List.map_flatMap,
    ← List.map_reverse, List.zipIdx_map, List.flatMap_map]
  simp only [Prod.map, List.zipIdx_map, List.map_map]
  rfl

/-- The new name stands where the name stood. -/
theorem occurrences_map {grid : List (List String)} {name : String}
    (apart : ∀ cell ∈ grid.flatten, f cell = f name → cell = name) :
    occurrences (grid.map (·.map f)) (f name) = occurrences grid name := by
  rw [occurrences_eq, occurrences_eq, cellsFromBottom_map, List.filter_map, List.map_map]
  have same : ∀ cell ∈ cellsFromBottom grid,
      ((fun cell : String × Nat × Nat => decide (cell.1 = f name)) ∘
        fun cell => (f cell.1, cell.2)) cell = decide (cell.1 = name) := by
    intro cell member
    have inside : cell.1 ∈ grid.flatten := by
      rw [← cells_names]
      exact List.mem_map_of_mem ((cellsFromBottom_perm grid).mem_iff.mp member)
    simp only [Function.comp_apply, decide_eq_decide]
    exact ⟨apart cell.1 inside, congrArg f⟩
  rw [List.filter_congr same]
  rfl

theorem links_rename (renames : tiles.Renames f) {names : List String}
    (named : ∀ name ∈ names, name ∈ tiles.blockNames) (x y : Nat) :
    links (names.map f) (tiles.rename f).grid x y = links names tiles.grid x y := by
  rw [links_eq, links_eq, List.flatMap_map]
  refine List.flatMap_congr fun name listed => ?_
  have stands : occurrences (tiles.rename f).grid (f name) = occurrences tiles.grid name := by
    apply occurrences_map
    intro cell inside
    exact renames.apart cell (mem_blockNames_of_cell inside) name (named name listed)
  rw [stands]

theorem linksOf_rename (renames : tiles.Renames f) {block : BlockDecl}
    (named : ∀ name ∈ block.links.getD [], name ∈ tiles.blockNames) (x y : Nat) :
    linksOf (block.rename f) (tiles.rename f).grid x y = linksOf block tiles.grid x y := by
  have renamed : (block.rename f).links.getD [] = (block.links.getD []).map f := by
    cases linked : block.links <;> simp [BlockDecl.rename, linked]
  rw [linksOf, renamed]
  exact links_rename renames named x y

/-! ### Configurations and tiles -/

theorem content_rename (f : String → String) (catalog : Catalog) (kind : ContentKind)
    (value : String) :
    (content catalog kind value).mapError (.rename f) = content catalog kind value := by
  unfold content
  split <;> rfl

theorem program_rename (cell : String) (links : List Link) (name : String) :
    program (context.rename f) (f cell) links name =
      (program context cell links name).mapError (.rename f) := by
  unfold program
  dsimp only [Context.rename, Tiles.rename]
  cases context.document.tiles.programs.get? name with
  | none => rfl
  | some source =>
    dsimp only
    cases source.load context.shop with
    | error problem => rfl
    | ok code =>
      change ((context.codec.pack links code).mapError _ >>= _) =
        Except.mapError _ ((context.codec.pack links code).mapError _ >>= _)
      cases context.codec.pack links code <;> rfl

theorem declared_rename (cell : String) (links : List Link) (kind : ConfigKind) (value : String) :
    declared (context.rename f) (f cell) links kind value =
      (declared context cell links kind value).mapError (.rename f) := by
  cases kind with
  | program => exact program_rename cell links value
  | point =>
    dsimp only [declared, point]
    split <;> rfl
  | boolean => rfl
  | string => rfl
  | _ => exact (content_rename f _ _ _).symm

theorem config_rename (renames : context.document.tiles.Renames f) {cell : String}
    {block : BlockDecl} (declared : context.document.tiles.blocks.get? cell = some block)
    (x y : Nat) :
    config (context.rename f) (f cell) (block.rename f) x y =
      (config context cell block x y).mapError (.rename f) := by
  have linked := linksOf_rename renames (fun _ => mem_blockNames_of_link declared) x y
  have isLinked : (block.rename f).links.isSome = block.links.isSome := Option.isSome_map
  have renamed : (context.rename f).document.tiles = context.document.tiles.rename f := rfl
  have sameId : (block.rename f).id = block.id := rfl
  have sameConfig : (block.rename f).config = block.config := rfl
  unfold config
  rw [renamed, linked, isLinked, sameId, sameConfig]
  split
  · rfl
  · cases block.config with
    | none => rfl
    | some declaration =>
      dsimp only
      cases ConfigKind.ofName? declaration.kind with
      | none => rfl
      | some kind =>
        dsimp only
        rw [← declared_rename, ← linked]

theorem tile_rename (renames : context.document.tiles.Renames f) {cell : String}
    (named : cell ∈ context.document.tiles.blockNames) (x y : Nat) :
    tile (context.rename f) (f cell) x y = (tile context cell x y).mapError (.rename f) := by
  have found := get?_rename renames named
  have renamed : (context.rename f).document.tiles = context.document.tiles.rename f := rfl
  unfold tile
  rw [renamed, found]
  cases declared : context.document.tiles.blocks.get? cell with
  | none => rfl
  | some block =>
    simp only [Option.map_some]
    rw [config_rename renames declared]
    change (if (!context.catalog.hasBlock block.id) = true then _ else _) = _
    cases context.catalog.hasBlock block.id with
    | false => rfl
    | true => cases config context cell block x y <;> rfl

theorem place_rename (renames : context.document.tiles.Renames f) {cell : String}
    (named : cell ∈ context.document.tiles.blockNames) (x y : Nat) :
    place (context.rename f) (f cell) x y = (place context cell x y).mapError (.rename f) := by
  unfold place
  by_cases empty : cell = ""
  · rw [if_pos empty, if_pos ((renames.empty cell named).mpr empty)]
    rfl
  · rw [if_neg empty, if_neg (mt (renames.empty cell named).mp empty), tile_rename renames named]
    cases tile context cell x y <;> rfl

theorem row_rename (renames : context.document.tiles.Renames f) {names : List String}
    (inside : names ∈ context.document.tiles.grid) (y : Nat) :
    row (context.rename f) (names.map f) y = (row context names y).mapError (.rename f) := by
  unfold row
  rw [List.zipIdx_map]
  apply mapM_map_mapError
  intro entry member
  apply place_rename renames
  apply mem_blockNames_of_cell
  exact List.mem_flatten_of_mem inside (List.fst_mem_of_mem_zipIdx member)

theorem grid_rename (renames : context.document.tiles.Renames f) :
    grid (context.rename f) = (grid context).mapError (.rename f) := by
  have height : (context.rename f).document.tiles.height = context.document.tiles.height :=
    List.length_map _
  unfold grid
  dsimp only
  rw [height]
  change List.mapM _ (context.document.tiles.grid.map (·.map f)).zipIdx = _
  rw [List.zipIdx_map]
  apply mapM_map_mapError
  intro entry member
  exact row_rename renames (List.fst_mem_of_mem_zipIdx member) _

/-! ### The first cell without a tile -/

theorem cells_map (f : String → String) (rows : List (List String)) :
    cells (rows.map (·.map f)) = (cells rows).map fun cell => (f cell.1, cell.2) := by
  rw [cells, cells, List.map_flatMap, List.zipIdx_map, List.flatMap_map, List.length_map]
  simp only [Prod.map, List.zipIdx_map, List.map_map]
  rfl

theorem failsFirst_rename (renames : context.document.tiles.Renames f) {x y : Nat}
    {problem : PlacementError} (failed : FailsFirst context x y problem) :
    FailsFirst (context.rename f) x y (problem.rename f) := by
  obtain ⟨before, cell, after, split, passed, failed⟩ := failed
  -- All cells before the failing one keep their outcome, so the split of the cells stays the same.
  have named : ∀ entry ∈ cells context.document.tiles.grid,
      placeAt (context.rename f) (f entry.1, entry.2) =
        (placeAt context entry).mapError (.rename f) := by
    intro entry member
    apply place_rename renames
    apply mem_blockNames_of_cell
    rw [← cells_names]
    exact List.mem_map_of_mem member
  refine ⟨before.map fun entry => (f entry.1, entry.2), f cell,
    after.map fun entry => (f entry.1, entry.2), ?_, ?_, ?_⟩
  · change cells (context.document.tiles.grid.map (·.map f)) = _
    rw [cells_map, split, List.map_append, List.map_cons]
  · intro earlier member
    obtain ⟨original, inside, rfl⟩ := List.mem_map.mp member
    obtain ⟨value, placed⟩ := passed original inside
    have whole : original ∈ cells context.document.tiles.grid := by
      rw [split]
      exact List.mem_append_left _ inside
    rw [named original whole, placed]
    exact ⟨value, rfl⟩
  · have whole : (cell, x, y) ∈ cells context.document.tiles.grid := by
      rw [split]
      exact List.mem_append_right _ List.mem_cons_self
    have renamed := named (cell, x, y) whole
    rw [failed] at renamed
    exact renamed

/-- Names of blocks are labels only. With other names that are as different a grid has the same
tiles, or it fails at the same cell with the same error, in which the name of the block is new. -/
theorem names_are_labels (renames : context.document.tiles.Renames f) :
    (∀ compiled, grid context = .ok compiled → grid (context.rename f) = .ok compiled) ∧
    ∀ problem, grid context = .error problem →
      grid (context.rename f) = .error (problem.rename f) ∧
      ∃ x y, FailsFirst context x y problem ∧
        FailsFirst (context.rename f) x y (problem.rename f) := by
  have renamed := grid_rename renames
  constructor
  · intro compiled success
    rw [renamed, success]
    rfl
  · intro problem failure
    obtain ⟨x, y, first⟩ := grid_error_iff.mp failure
    refine ⟨?_, x, y, first, failsFirst_rename renames first⟩
    rw [renamed, failure]
    rfl

/-- Two names change places. -/
def exchanged (name : String) : String :=
  if name = "a" then "q" else if name = "q" then "a" else name

/-- The power node beside a block that is not declared. -/
def strayContext : Context :=
  { hubContext with document := { hubContext.document with tiles :=
      { hubContext.document.tiles with grid := [["a"], ["n", "q"]] } } }

theorem stray_failed : grid strayContext = .error (.missingBlock "q") := by
  decide +kernel

theorem names_are_labels_hub :
    hubContext.document.tiles.Renames exchanged ∧
    grid (hubContext.rename exchanged) = .ok hubTiles ∧
    strayContext.document.tiles.Renames exchanged ∧
    grid (strayContext.rename exchanged) = .error (.missingBlock "a") := by
  have hub : hubContext.document.tiles.Renames exchanged := ⟨by decide, by decide⟩
  have stray : strayContext.document.tiles.Renames exchanged := ⟨by decide, by decide⟩
  refine ⟨hub, (names_are_labels hub).1 hubTiles hub_compiled, stray, ?_⟩
  exact ((names_are_labels stray).2 _ stray_failed).1

end Placement

end Blueprint
