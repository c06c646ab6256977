import Blueprint.Placement.Links

/-!
The cells of a grid and their positions. A grid is written from the top row down and its rows may
differ in length; positions count from the left and from the bottom.
-/

namespace Blueprint.Placement

/-- The cell at a position, if its row is that long. -/
def cellAt (grid : List (List String)) (x y : Nat) : Option String :=
  if y < grid.length then (grid[grid.length - 1 - y]?).bind (·[x]?) else none

/-- The row of a cell and its place in it. -/
theorem cellAt_eq_some_iff {grid : List (List String)} {x y : Nat} {cell : String} :
    cellAt grid x y = some cell ↔
      ∃ row, y < grid.length ∧ grid[grid.length - 1 - y]? = some row ∧ row[x]? = some cell := by
  unfold cellAt
  constructor
  · intro here
    split at here
    · next below =>
      obtain ⟨row, rowAt, cellHere⟩ := Option.bind_eq_some_iff.mp here
      exact ⟨row, below, rowAt, cellHere⟩
    · cases here
  · rintro ⟨row, below, rowAt, cellHere⟩
    rw [if_pos below, rowAt]
    exact cellHere

/-- The cells with their positions, row by row from the top and from left to right. -/
def cells (grid : List (List String)) : List (String × Nat × Nat) :=
  grid.zipIdx.flatMap fun (row, index) =>
    row.zipIdx.map fun (cell, x) => (cell, x, grid.length - index - 1)

/-- The cells that are not empty. -/
def occupied (grid : List (List String)) : List (String × Nat × Nat) :=
  (cells grid).filter (·.1 ≠ "")

/-- In a lower row, or further to the right in the same row. -/
def Follows (a b : Nat × Nat) : Prop := b.2 < a.2 ∨ b.2 = a.2 ∧ a.1 < b.1

theorem zipIdx_increasing (items : List α) : items.zipIdx.Pairwise fun a b => a.2 < b.2 := by
  have numbers : (items.zipIdx.map Prod.snd).Pairwise (· < ·) := by
    rw [List.zipIdx_map_snd]
    exact List.pairwise_lt_range'
  exact List.pairwise_map.mp numbers

theorem mem_cells_iff {grid : List (List String)} {cell : String} {x y : Nat} :
    (cell, x, y) ∈ cells grid ↔ cellAt grid x y = some cell := by
  simp only [cells, List.mem_flatMap, List.mem_map, Prod.exists, Prod.mk.injEq,
    List.mem_zipIdx_iff_getElem?, cellAt_eq_some_iff]
  constructor
  · rintro ⟨row, index, rowAt, _, _, cellHere, rfl, rfl, rfl⟩
    obtain ⟨bound, _⟩ := List.getElem?_eq_some_iff.mp rowAt
    have flipped : grid.length - 1 - (grid.length - index - 1) = index := by omega
    exact ⟨row, by omega, by rw [flipped]; exact rowAt, cellHere⟩
  · rintro ⟨row, below, rowAt, cellHere⟩
    exact ⟨row, _, rowAt, cell, x, cellHere, rfl, rfl, by omega⟩

theorem mem_occupied_iff {grid : List (List String)} {cell : String} {x y : Nat} :
    (cell, x, y) ∈ occupied grid ↔ cellAt grid x y = some cell ∧ cell ≠ "" := by
  rw [occupied, List.mem_filter, mem_cells_iff, decide_eq_true_eq]

theorem cells_follow (grid : List (List String)) :
    (cells grid).Pairwise fun a b => Follows a.2 b.2 := by
  refine List.pairwise_flatMap.mpr ⟨?_, ?_⟩
  · intro row _
    refine List.pairwise_map.mpr ((zipIdx_increasing row.1).imp ?_)
    intro a b right
    exact Or.inr ⟨rfl, right⟩
  · refine (zipIdx_increasing grid).imp_of_mem ?_
    intro upper lower _ member below a here b there
    obtain ⟨_, _, rfl⟩ := List.mem_map.mp here
    obtain ⟨_, _, rfl⟩ := List.mem_map.mp there
    have bound := (List.mem_zipIdx' member).1
    exact Or.inl (by dsimp only; omega)

theorem occupied_follow (grid : List (List String)) :
    (occupied grid).Pairwise fun a b => Follows a.2 b.2 :=
  (cells_follow grid).sublist List.filter_sublist

theorem Follows.ne {a b : Nat × Nat} (follows : Follows a b) : a ≠ b := by
  rintro rfl
  rcases follows with lower | ⟨_, right⟩
  · exact Nat.lt_irrefl _ lower
  · exact Nat.lt_irrefl _ right

/-- The names of the cells in order are the rows one after the other. -/
theorem cells_names (grid : List (List String)) : (cells grid).map Prod.fst = grid.flatten := by
  have names (row : List String × Nat) :
      (row.1.zipIdx.map fun (cell, x) => (cell, x, grid.length - row.2 - 1)).map Prod.fst =
        row.1 := by
    rw [List.map_map]
    exact List.zipIdx_map_fst 0 row.1
  simp only [cells, List.map_flatMap, names]
  rw [List.flatMap_def, List.zipIdx_map_fst]

theorem occupied_length (grid : List (List String)) :
    (occupied grid).length = grid.flatten.countP (· ≠ "") := by
  rw [occupied, ← List.countP_eq_length_filter, ← cells_names, List.countP_map]
  rfl

/-! ### The size of a grid -/

theorem width_eq (tiles : Tiles) : tiles.width = ((tiles.grid.map List.length).max?).getD 0 := by
  rw [Tiles.width, List.foldl_max, Nat.zero_max]

theorem length_le_width (tiles : Tiles) {row : List String} (member : row ∈ tiles.grid) :
    row.length ≤ tiles.width := by
  have listed : row.length ∈ tiles.grid.map List.length := List.mem_map_of_mem member
  rw [width_eq]
  cases greatest : (tiles.grid.map List.length).max? with
  | none =>
    rw [List.max?_eq_none_iff.mp greatest] at listed
    cases listed
  | some width => exact (List.max?_eq_some_iff.mp greatest).2 _ listed

theorem cellAt_inside {tiles : Tiles} {cell : String} {x y : Nat}
    (here : cellAt tiles.grid x y = some cell) : x < tiles.width ∧ y < tiles.height := by
  obtain ⟨row, below, rowAt, cellHere⟩ := cellAt_eq_some_iff.mp here
  have long := (List.getElem?_eq_some_iff.mp cellHere).1
  exact ⟨Nat.lt_of_lt_of_le long (length_le_width tiles (List.mem_of_getElem? rowAt)), below⟩

end Blueprint.Placement
