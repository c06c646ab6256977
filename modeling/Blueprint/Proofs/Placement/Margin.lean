import Blueprint.Proofs.Placement.Power

/-!
Grids with a margin: empty cells in front of every row and empty rows at the bottom. All positions
grow by the size of the margin, so that distances stay as they are, and with them all links to
named cells. Placing a grid with a margin is placing the grid and moving its tiles.
-/

namespace Blueprint

/-- A tile further to the right and further up, with the same configuration. -/
def Tile.moved (right up : Nat) (tile : Tile) : Tile :=
  { tile with x := tile.x + right, y := tile.y + up }

namespace Placement

open Traversal

/-- A grid with empty cells in front of every row, and with further rows below it. -/
def withMargin (left : Nat) (below rows : List (List String)) : List (List String) :=
  rows.map (List.replicate left "" ++ ·) ++ below

/-- The context whose grid has a margin. -/
def Context.withMargin (left : Nat) (below : List (List String)) (context : Context) : Context :=
  { context with document := { context.document with tiles := { context.document.tiles with
      grid := Placement.withMargin left below context.document.tiles.grid } } }

/-- All cells of some rows are empty. -/
def Blank (rows : List (List String)) : Prop := ∀ row ∈ rows, ∀ cell ∈ row, cell = ""

/-- No declaration of an occupied cell lists the empty name among its links. -/
def LinksNamed (tiles : Tiles) : Prop :=
  ∀ cell ∈ tiles.grid.flatten, cell ≠ "" → ∀ block ∈ tiles.blocks.get? cell,
    "" ∉ block.links.getD []

/-- The tiles of a grid in the places that they have when the grid gets a margin. -/
def movedTiles (left : Nat) (below : List (List String)) (compiled : List (List (Option Tile))) :
    List (List (Option Tile)) :=
  compiled.map (fun places =>
      List.replicate left none ++ places.map (Option.map (Tile.moved left below.length)))
    ++ below.map fun cells => cells.map fun _ => none

variable {context : Context} {left : Nat} {below rows : List (List String)}

/-! ### Links -/

/-- Numbering from some number on moves all numbers by it. -/
theorem zipIdx_from (items : List α) (start : Nat) :
    items.zipIdx start = items.zipIdx.map fun entry => (entry.1, entry.2 + start) := by
  rw [List.zipIdx_eq_map_add]
  simp only [Nat.add_comm]

theorem distance_moved (origin target step : Nat) :
    distance (origin + step) (target + step) = distance origin target := by
  unfold distance
  -- The step cancels also where the sums are too large for a word and wrap around.
  rw [Int32.ofNat_add, Int32.ofNat_add]
  grind

/-- The columns of a row that have a name. -/
def columns (row : List String) (name : String) : List Nat :=
  (row.zipIdx.filter (·.1 = name)).map Prod.snd

theorem occurrences_columns (grid : List (List String)) (name : String) :
    occurrences grid name = grid.reverse.zipIdx.flatMap fun entry =>
      (columns entry.1 name).map fun x => (x, entry.2) := by
  rw [occurrences_eq, cellsFromBottom, ← List.flatMap_def, List.filter_flatMap, List.map_flatMap]
  simp only [columns, List.filter_map, List.map_map]
  rfl

theorem columns_blank {row : List String} (blank : ∀ cell ∈ row, cell = "") {name : String}
    (nonempty : name ≠ "") : columns row name = [] := by
  rw [columns, List.map_eq_nil_iff, List.filter_eq_nil_iff]
  intro entry member same
  have empty := blank entry.1 (List.fst_mem_of_mem_zipIdx member)
  exact nonempty ((of_decide_eq_true same).symm.trans empty)

theorem columns_margin (left : Nat) (row : List String) {name : String} (nonempty : name ≠ "") :
    columns (List.replicate left "" ++ row) name = (columns row name).map (· + left) := by
  have margin : columns (List.replicate left "") name = [] :=
    columns_blank (fun cell member => List.eq_of_mem_replicate member) nonempty
  unfold columns at margin ⊢
  rw [List.zipIdx_append, List.filter_append, List.map_append, margin, List.nil_append,
    List.length_replicate, Nat.zero_add, zipIdx_from, List.filter_map, List.map_map, List.map_map]
  rfl

/-- Counted from the bottom, the rows of the margin come first. -/
theorem occurrences_withMargin (blank : Blank below) {name : String} (nonempty : name ≠ "") :
    occurrences (withMargin left below rows) name =
      (occurrences rows name).map fun place => (place.1 + left, place.2 + below.length) := by
  have nothing : (below.reverse.zipIdx.flatMap fun entry =>
      (columns entry.1 name).map fun x => (x, entry.2)) = [] := by
    rw [List.flatMap_eq_nil_iff]
    intro entry member
    have inside := List.mem_reverse.mp (List.fst_mem_of_mem_zipIdx member)
    rw [columns_blank (blank _ inside) nonempty, List.map_nil]
  rw [occurrences_columns, occurrences_columns, withMargin, List.reverse_append,
    List.zipIdx_append, List.flatMap_append, nothing, List.nil_append, ← List.map_reverse,
    List.zipIdx_map, List.length_reverse, Nat.zero_add, zipIdx_from]
  simp only [List.flatMap_map, List.map_flatMap, List.map_map, Function.comp_apply, Prod.map,
    columns_margin left _ nonempty]
  rfl

theorem links_withMargin (blank : Blank below) {names : List String} (nonempty : "" ∉ names)
    (x y : Nat) :
    links names (withMargin left below rows) (x + left) (y + below.length) =
      links names rows x y := by
  rw [links_eq, links_eq]
  refine List.flatMap_congr fun name listed => ?_
  have named : name ≠ "" := fun empty => nonempty (empty ▸ listed)
  rw [occurrences_withMargin blank named, List.map_map]
  simp only [Function.comp_def, distance_moved]

/-! ### Tiles -/

theorem config_withMargin (blank : Blank below) {block : BlockDecl}
    (named : "" ∉ block.links.getD []) (cell : String) (x y : Nat) :
    config (context.withMargin left below) cell block (x + left) (y + below.length) =
      config context cell block x y := by
  have linked : linksOf block (withMargin left below context.document.tiles.grid) (x + left)
      (y + below.length) = linksOf block context.document.tiles.grid x y :=
    links_withMargin blank named x y
  unfold config
  dsimp only [Context.withMargin]
  rw [linked]
  rfl

theorem tile_withMargin (blank : Blank below) {cell : String}
    (named : ∀ block ∈ context.document.tiles.blocks.get? cell, "" ∉ block.links.getD [])
    (x y : Nat) :
    tile (context.withMargin left below) cell (x + left) (y + below.length) =
      (tile context cell x y).map (Tile.moved left below.length) := by
  have kept : (context.withMargin left below).document.tiles.blocks =
      context.document.tiles.blocks := rfl
  unfold tile
  rw [kept]
  cases declared : context.document.tiles.blocks.get? cell with
  | none => rfl
  | some block =>
    dsimp only
    rw [config_withMargin blank (named block declared)]
    change (if (!context.catalog.hasBlock block.id) = true then _ else _) = _
    cases context.catalog.hasBlock block.id with
    | false => rfl
    | true => cases config context cell block x y <;> rfl

theorem place_withMargin (blank : Blank below) (named : LinksNamed context.document.tiles)
    {cell : String} (inside : cell ∈ context.document.tiles.grid.flatten) (x y : Nat) :
    place (context.withMargin left below) cell (x + left) (y + below.length) =
      (place context cell x y).map (Option.map (Tile.moved left below.length)) := by
  unfold place
  split
  · rfl
  · next occupied =>
    rw [tile_withMargin blank (named cell inside occupied)]
    cases tile context cell x y <;> rfl

/-- Empty cells are passed over wherever they are. -/
theorem places_blank (context : Context) {cells : List String} (blank : ∀ cell ∈ cells, cell = "")
    (start y : Nat) :
    ((cells.zipIdx start).mapM fun entry => place context entry.1 entry.2 y) =
      .ok (cells.map fun _ => none) := by
  induction cells generalizing start with
  | nil => rfl
  | cons cell rest ih =>
    obtain ⟨empty, others⟩ := List.forall_mem_cons.mp blank
    rw [List.zipIdx_cons, List.mapM_cons, ih others, place, if_pos empty]
    rfl

theorem row_withMargin (blank : Blank below) (named : LinksNamed context.document.tiles)
    {cells : List String} (inside : cells ∈ context.document.tiles.grid) (y : Nat) :
    row (context.withMargin left below) (List.replicate left "" ++ cells) (y + below.length) =
      (row context cells y).map fun places =>
        List.replicate left none ++ places.map (Option.map (Tile.moved left below.length)) := by
  let placeAt (entry : String × Nat) :=
    place (context.withMargin left below) entry.1 entry.2 (y + below.length)
  have margin : (List.replicate left "").zipIdx.mapM placeAt = .ok (List.replicate left none) := by
    have empty : ∀ cell ∈ List.replicate left "", cell = "" :=
      fun cell => List.eq_of_mem_replicate
    have passed := places_blank (context.withMargin left below) empty 0 (y + below.length)
    rwa [List.map_replicate] at passed
  have others : (cells.zipIdx left).mapM placeAt =
      (row context cells y).map (List.map (Option.map (Tile.moved left below.length))) := by
    rw [zipIdx_from]
    apply mapM_map_map
    intro entry member
    change place _ entry.1 (entry.2 + left) _ = _
    apply place_withMargin blank named
    exact List.mem_flatten_of_mem inside (List.fst_mem_of_mem_zipIdx member)
  change List.mapM placeAt _ = _
  rw [List.zipIdx_append, List.mapM_append, margin, List.length_replicate, Nat.zero_add, others]
  cases row context cells y <;> rfl

theorem rows_blank (context : Context) (blank : Blank below) (height start : Nat) :
    ((below.zipIdx start).mapM fun entry => row context entry.1 (height - entry.2 - 1)) =
      .ok (below.map fun cells => cells.map fun _ => none) := by
  induction below generalizing start with
  | nil => rfl
  | cons cells rest ih =>
    obtain ⟨empty, others⟩ := List.forall_mem_cons.mp blank
    have here : row context cells (height - start - 1) = .ok (cells.map fun _ => none) :=
      places_blank context empty 0 _
    rw [List.zipIdx_cons, List.mapM_cons, ih others, here]
    rfl

theorem grid_withMargin (blank : Blank below) (named : LinksNamed context.document.tiles) :
    grid (context.withMargin left below) = (grid context).map (movedTiles left below) := by
  let cells := context.document.tiles.grid
  let height := (context.withMargin left below).document.tiles.height
  have tall : height = cells.length + below.length := by
    simp [height, cells, Tiles.height, Context.withMargin, withMargin]
  let rowAt (entry : List String × Nat) :=
    row (context.withMargin left below) entry.1 (height - entry.2 - 1)
  have upper : (cells.map (List.replicate left "" ++ ·)).zipIdx.mapM rowAt =
      (grid context).map (List.map fun places =>
        List.replicate left none ++ places.map (Option.map (Tile.moved left below.length))) := by
    rw [List.zipIdx_map]
    apply mapM_map_map
    intro entry member
    obtain ⟨bound, _⟩ := List.mem_zipIdx' member
    -- Heights are counted from the bottom, so the rows below lift every row of the grid.
    have level : height - entry.2 - 1 = cells.length - entry.2 - 1 + below.length := by omega
    change row _ (_ ++ entry.1) (height - entry.2 - 1) = _
    rw [level]
    exact row_withMargin blank named (List.fst_mem_of_mem_zipIdx member) _
  change List.mapM rowAt (withMargin left below cells).zipIdx = _
  rw [withMargin, List.zipIdx_append, List.mapM_append, upper]
  have lower (start : Nat) : (below.zipIdx start).mapM rowAt =
      .ok (below.map fun row => row.map fun _ => none) :=
    rows_blank (context.withMargin left below) blank height start
  rw [lower]
  cases grid context <;> rfl

theorem tiles_movedRow (left up : Nat) (places : List (Option Tile)) :
    (List.replicate left none ++ places.map (Option.map (Tile.moved left up))).filterMap id =
      (places.filterMap id).map (Tile.moved left up) := by
  simp only [List.filterMap_append, List.filterMap_replicate_of_none, id_eq, List.nil_append,
    List.filterMap_map, List.map_filterMap]
  rfl

theorem tiles_movedTiles (left : Nat) (below : List (List String))
    (compiled : List (List (Option Tile))) :
    (movedTiles left below compiled).flatten.filterMap id =
      (compiled.flatten.filterMap id).map (Tile.moved left below.length) := by
  have margin : (below.map fun cells => cells.map fun _ => (none : Option Tile)).flatten.filterMap
      id = [] := by
    simp
  rw [movedTiles, List.flatten_append, List.filterMap_append, margin, List.append_nil]
  induction compiled with
  | nil => rfl
  | cons places rest ih =>
    rw [List.map_cons, List.flatten_cons, List.filterMap_append, tiles_movedRow, ih,
      List.flatten_cons, List.filterMap_append, List.map_append]

/-- A grid with a margin is placed exactly if the grid is, and fails as it does. The tiles are the
same, with the same configurations and in the same order, further to the right by the columns of
the margin and further up by its rows. -/
theorem margin_moves_tiles (left : Nat) (blank : Blank below)
    (named : LinksNamed context.document.tiles) :
    grid (context.withMargin left below) = (grid context).map (movedTiles left below) ∧
    ∀ compiled, (movedTiles left below compiled).flatten.filterMap id =
      (compiled.flatten.filterMap id).map (Tile.moved left below.length) :=
  ⟨grid_withMargin blank named, tiles_movedTiles left below⟩

/-- A margin of one column and two rows, one of which has more cells than any row of the grid. -/
def widerRows : List (List String) := [[], ["", "", "", "", ""]]

theorem margin_moves_tiles_hub :
    Blank widerRows ∧ LinksNamed hubContext.document.tiles ∧
    grid (hubContext.withMargin 1 widerRows) = .ok (movedTiles 1 widerRows hubTiles) ∧
    (movedTiles 1 widerRows hubTiles).flatten.filterMap id =
      [⟨"router", 1, 4, .null, 0⟩, { hub with x := 2, y := 4 }, ⟨"router", 2, 2, .null, 1⟩,
        ⟨"router", 3, 2, .null, 0⟩] := by
  have blank : Blank widerRows := by
    simp [Blank, widerRows]
  have named : LinksNamed hubContext.document.tiles := by
    unfold LinksNamed
    decide
  obtain ⟨placed, moved⟩ := margin_moves_tiles 1 blank named
  refine ⟨blank, named, ?_, ?_⟩
  · rw [placed, hub_compiled]
    rfl
  · rw [moved]
    decide

end Placement

end Blueprint
