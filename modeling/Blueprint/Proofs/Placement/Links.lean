import Blueprint.Proofs.Placement.Cells

/-!
Links between cells: where they lead when the offset is added to the position of their owner, and
in which order.
-/

namespace Blueprint.Placement

/-- The positions of the cells with a name, row by row from the bottom and from left to right. -/
def occurrences (grid : List (List String)) (name : String) : List (Nat × Nat) :=
  grid.zipIdx.reverse.flatMap fun (row, index) =>
    (row.zipIdx.filter (·.1 = name)).map fun (_, x) => (x, grid.length - index - 1)

theorem zipIdx_reverse (items : List α) :
    items.reverse.zipIdx =
      items.zipIdx.reverse.map fun (item, index) => (item, items.length - index - 1) := by
  apply List.ext_getElem
  · simp
  · intro index bound _
    simp only [List.length_zipIdx, List.length_reverse] at bound
    simp only [List.getElem_zipIdx, List.getElem_reverse, List.getElem_map, List.length_zipIdx,
      Nat.zero_add, Prod.mk.injEq, true_and]
    omega

/-- Counting rows from the bottom is counting them from the top and turning the number round. -/
theorem cellsFromBottom_eq (grid : List (List String)) :
    cellsFromBottom grid = grid.zipIdx.reverse.flatMap fun (row, index) =>
      row.zipIdx.map fun (cell, x) => (cell, x, grid.length - index - 1) := by
  rw [cellsFromBottom, zipIdx_reverse, List.map_map, ← List.flatMap_def]
  rfl

theorem occurrences_eq (grid : List (List String)) (name : String) :
    occurrences grid name = ((cellsFromBottom grid).filter (·.1 = name)).map Prod.snd := by
  rw [cellsFromBottom_eq, List.filter_flatMap, List.map_flatMap, occurrences]
  simp only [List.filter_map, List.map_map]
  rfl

theorem mem_occurrences_iff {grid : List (List String)} {name : String} {x y : Nat} :
    (x, y) ∈ occurrences grid name ↔ cellAt grid x y = some name := by
  rw [← mem_cells_iff]
  simp only [occurrences, cells, List.mem_flatMap, List.mem_reverse, List.mem_map, List.mem_filter,
    Prod.exists, Prod.mk.injEq, decide_eq_true_eq]
  constructor
  · rintro ⟨row, index, member, cell, column, ⟨inRow, named⟩, rfl, rfl⟩
    exact ⟨row, index, member, cell, column, inRow, named, rfl, rfl⟩
  · rintro ⟨row, index, member, cell, column, inRow, named, rfl, rfl⟩
    exact ⟨row, index, member, cell, column, ⟨inRow, named⟩, rfl, rfl⟩

theorem links_eq (names : List String) (grid : List (List String)) (x y : Nat) :
    links names grid x y = names.flatMap fun name => (occurrences grid name).map
      fun target => ⟨⟨distance x target.1, distance y target.2⟩, automaticName⟩ := by
  simp only [links, occurrences_eq, List.map_map]
  rfl

/-- Between positions below `2^31` a distance is never wrapped. -/
theorem distance_toInt {origin target : Nat} (start : origin < 2147483648)
    (goal : target < 2147483648) : (distance origin target).toInt = (target : Int) - origin := by
  rw [distance, Int32.toInt_sub, Int32.toInt_ofNat_of_lt start, Int32.toInt_ofNat_of_lt goal]
  exact Int.bmod_eq_of_le_mul_two (by omega) (by omega)

/-- The position that a link of the tile at `x` and `y` leads to. -/
def destination (x y : Nat) (link : Link) : Int × Int :=
  (x + link.offset.x.toInt, y + link.offset.y.toInt)

/-- Each link leads to a cell of its name, and every such cell is reached in order. -/
theorem links_destinations {tiles : Tiles} {x y : Nat} (names : List String)
    (low : tiles.height < 2147483648) (narrow : tiles.width < 2147483648)
    (column : x < tiles.width) (row : y < tiles.height) :
    (links names tiles.grid x y).map (destination x y) =
      names.flatMap fun name =>
        (occurrences tiles.grid name).map fun target => ((target.1 : Int), (target.2 : Int)) := by
  have reaches {name : String} {target : Nat × Nat}
      (member : target ∈ occurrences tiles.grid name) :
      destination x y ⟨⟨distance x target.1, distance y target.2⟩, automaticName⟩ =
        ((target.1 : Int), (target.2 : Int)) := by
    obtain ⟨inColumns, inRows⟩ := cellAt_inside (mem_occurrences_iff.mp member)
    have across := distance_toInt (Nat.lt_trans column narrow) (Nat.lt_trans inColumns narrow)
    have up := distance_toInt (Nat.lt_trans row low) (Nat.lt_trans inRows low)
    simp only [destination, across, up, Prod.mk.injEq]
    omega
  rw [links_eq, List.map_flatMap]
  congr 1
  funext name
  rw [List.map_map]
  exact List.map_congr_left fun target member => reaches member

theorem links_named (names : List String) (grid : List (List String)) (x y : Nat) :
    ∀ link ∈ links names grid x y, link.name = automaticName := by
  intro link member
  simp only [links_eq, List.mem_flatMap, List.mem_map] at member
  obtain ⟨_, _, _, _, rfl⟩ := member
  rfl

end Blueprint.Placement
