import Blueprint.Proofs.Placement.Grid

/-!
The outcome of placing a grid, cell by cell. A grid is placed if every cell that is not empty can be
placed, and the result has its shape. Otherwise the first cell that cannot be placed decides, rows
being read from the top and cells from the left. Cells behind it matter only as targets of the links
of processors.
-/

namespace Blueprint

open Traversal

namespace Placement

variable {φ : Type}

/-- The entry of a row, both counted from zero in the order in which they are written. -/
def entryAt {α : Type} (rows : List (List α)) (r c : Nat) : Option α := (rows[r]?).bind (·[c]?)

/-- In a row above, or further to the left in the same row. -/
def Earlier (a b : Nat × Nat) : Prop := a.1 < b.1 ∨ a.1 = b.1 ∧ a.2 < b.2

section Statement

variable (context : Context)

/-- The block of a cell is declared, the catalog has it, and it can be configured. -/
def Placeable (cell : String) (x y : Nat) : Prop :=
  ∃ block value, context.document.tiles.blocks.get? cell = some block ∧
    context.catalog.hasBlock block.id = true ∧ config context cell block x y = .ok value

/-- Why a cell cannot be placed. Each reason presumes that the ones before it do not apply. -/
inductive Refused (cell : String) (x y : Nat) : PlacementError → Prop where
  | undeclared (absent : context.document.tiles.blocks.get? cell = none) :
    Refused cell x y (.missingBlock cell)
  | unlisted {block : BlockDecl}
    (declared : context.document.tiles.blocks.get? cell = some block)
    (unknown : context.catalog.hasBlock block.id = false) :
    Refused cell x y (.unknownBlock cell block.id)
  | unconfigured {block : BlockDecl} {problem : PlacementError}
    (declared : context.document.tiles.blocks.get? cell = some block)
    (known : context.catalog.hasBlock block.id = true)
    (failed : config context cell block x y = .error problem) :
    Refused cell x y problem

/-- A cell that is not empty cannot be placed, and all such cells in front of it can. -/
structure FirstRefusal (r c : Nat) (problem : PlacementError) : Prop where
  here : ∃ cell, entryAt context.document.tiles.grid r c = some cell ∧ cell ≠ "" ∧
    Refused context cell c (context.document.tiles.height - r - 1) problem
  before : ∀ r' c' cell, Earlier (r', c') (r, c) →
    entryAt context.document.tiles.grid r' c' = some cell → cell ≠ "" →
    Placeable context cell c' (context.document.tiles.height - r' - 1)

end Statement

/-- The same blocks, programs and constants for another grid. -/
def Context.withGrid (context : Context) (rows : List (List String)) : Context :=
  { context with document := { context.document with
      tiles := { context.document.tiles with grid := rows } } }

/-- Two grids have the same cells up to a place. -/
def SameCells (rows other : List (List String)) (r c : Nat) : Prop :=
  ∀ r' c', ¬Earlier (r, c) (r', c') → entryAt other r' c' = entryAt rows r' c'

/-- Another grid has the same cells up to a place, and the processors there have the same links. -/
structure SameUpTo (context : Context) (rows : List (List String)) (r c : Nat) : Prop where
  cells : SameCells context.document.tiles.grid rows r c
  links : ∀ r' c' cell block name, ¬Earlier (r, c) (r', c') →
    entryAt context.document.tiles.grid r' c' = some cell →
    context.document.tiles.blocks.get? cell = some block → Runs block name →
    linksOf block rows c' (rows.length - r' - 1) =
      linksOf block context.document.tiles.grid c' (context.document.tiles.height - r' - 1)

/-- What placing makes of a grid, in terms of its cells. -/
structure CellByCell (context : Context) : Prop where
  succeeds : (∃ compiled, grid context = .ok compiled) ↔
    ∀ r c cell, entryAt context.document.tiles.grid r c = some cell → cell ≠ "" →
      Placeable context cell c (context.document.tiles.height - r - 1)
  shape : ∀ compiled, grid context = .ok compiled →
    compiled.map List.length = context.document.tiles.grid.map List.length
  empty : ∀ compiled, grid context = .ok compiled → ∀ r c cell,
    entryAt context.document.tiles.grid r c = some cell →
      (entryAt compiled r c = some none ↔ cell = "")
  placed : ∀ compiled, grid context = .ok compiled → ∀ r c cell,
    entryAt context.document.tiles.grid r c = some cell → cell ≠ "" →
      ∃ block value, context.document.tiles.blocks.get? cell = some block ∧
        config context cell block c (context.document.tiles.height - r - 1) = .ok value ∧
        entryAt compiled r c = some (some ⟨block.id, c, context.document.tiles.height - r - 1,
          value, block.rotation.getD 0⟩)
  fails : ∀ problem, grid context = .error problem ↔ ∃ r c, FirstRefusal context r c problem
  later : ∀ r c problem, FirstRefusal context r c problem →
    ∀ rows, SameUpTo context rows r c → grid (context.withGrid rows) = .error problem

/-! ### Traversing rows -/

section Rows

variable {α β : Type} {rows : List (List α)}

theorem entryAt_eq_some_iff {r c : Nat} {entry : α} :
    entryAt rows r c = some entry ↔ ∃ row, rows[r]? = some row ∧ row[c]? = some entry :=
  Option.bind_eq_some_iff

/-- Works through items in sight of their numbers. -/
def eachNumbered (g : Nat → α → Except φ β) (items : List α) : Except φ (List β) :=
  items.zipIdx.mapM fun item => g item.2 item.1

/-- Works through the entries of all rows in sight of their places. -/
def eachEntry (f : Nat → Nat → α → Except φ β) (rows : List (List α)) :
    Except φ (List (List β)) :=
  eachNumbered (fun r => eachNumbered (f r)) rows

theorem eachNumbered_ok {g : Nat → α → Except φ β} {items : List α} {results : List β}
    (success : eachNumbered g items = .ok results) :
    results.length = items.length ∧
    ∀ (i : Nat) (item : α), items[i]? = some item →
      ∃ result, results[i]? = some result ∧ g i item = .ok result := by
  unfold eachNumbered at success
  rw [mapM_ok_at_iff, List.length_zipIdx] at success
  refine ⟨success.1, ?_⟩
  intro i item found
  exact success.2 i (item, i) (by simp [List.getElem?_zipIdx, found])

theorem eachNumbered_error_iff {g : Nat → α → Except φ β} {items : List α} {problem : φ} :
    eachNumbered g items = .error problem ↔
      ∃ (i : Nat) (item : α), items[i]? = some item ∧ g i item = .error problem ∧
        ∀ (j : Nat) (earlier : α), j < i → items[j]? = some earlier →
          Succeeds (g j earlier) := by
  unfold eachNumbered
  rw [mapM_error_at_iff]
  constructor
  · intro stops
    obtain ⟨i, numbered, found, failed, passed⟩ := stops
    rw [List.getElem?_zipIdx, Nat.zero_add] at found
    obtain ⟨item, inside, rfl⟩ := Option.map_eq_some_iff.mp found
    refine ⟨i, item, inside, failed, ?_⟩
    intro j earlier inFront here
    exact passed j (earlier, j) inFront (by simp [List.getElem?_zipIdx, here])
  · intro stops
    obtain ⟨i, item, found, failed, passed⟩ := stops
    refine ⟨i, (item, i), by simp [List.getElem?_zipIdx, found], failed, ?_⟩
    intro j numbered inFront here
    rw [List.getElem?_zipIdx, Nat.zero_add] at here
    obtain ⟨earlier, inside, rfl⟩ := Option.map_eq_some_iff.mp here
    exact passed j earlier inFront inside

theorem eachNumbered_succeeds {g : Nat → α → Except φ β} {items : List α}
    (each : ∀ (i : Nat) (item : α), items[i]? = some item → Succeeds (g i item)) :
    Succeeds (eachNumbered g items) := by
  apply succeeds_of_ne_error
  intro problem failure
  obtain ⟨i, item, found, failed, _⟩ := eachNumbered_error_iff.mp failure
  obtain ⟨result, passed⟩ := each i item found
  cases failed.symm.trans passed

variable {f : Nat → Nat → α → Except φ β}

theorem eachEntry_ok {results : List (List β)} (success : eachEntry f rows = .ok results) :
    results.map List.length = rows.map List.length ∧
    ∀ (r c : Nat) (entry : α), entryAt rows r c = some entry →
      ∃ result, entryAt results r c = some result ∧ f r c entry = .ok result := by
  obtain ⟨height, each⟩ := eachNumbered_ok success
  constructor
  · apply List.ext_getElem?
    intro r
    rw [List.getElem?_map, List.getElem?_map]
    cases found : rows[r]? with
    | none =>
      have outside : results.length ≤ r := height ▸ List.getElem?_eq_none_iff.mp found
      rw [List.getElem?_eq_none_iff.mpr outside]
      rfl
    | some row =>
      obtain ⟨result, here, done⟩ := each r row found
      rw [here, Option.map_some, Option.map_some, (eachNumbered_ok done).1]
  · intro r c entry found
    obtain ⟨row, rowAt, inside⟩ := entryAt_eq_some_iff.mp found
    obtain ⟨done, doneAt, success⟩ := each r row rowAt
    obtain ⟨result, here, made⟩ := (eachNumbered_ok success).2 c entry inside
    exact ⟨result, entryAt_eq_some_iff.mpr ⟨done, doneAt, here⟩, made⟩

/-- The first entry that fails stops the rest. -/
theorem eachEntry_error_iff {problem : φ} : eachEntry f rows = .error problem ↔
    ∃ (r c : Nat) (entry : α), entryAt rows r c = some entry ∧ f r c entry = .error problem ∧
      ∀ (r' c' : Nat) (earlier : α), Earlier (r', c') (r, c) →
        entryAt rows r' c' = some earlier → Succeeds (f r' c' earlier) := by
  unfold eachEntry
  rw [eachNumbered_error_iff]
  constructor
  · intro stops
    obtain ⟨r, row, rowAt, failed, above⟩ := stops
    obtain ⟨c, entry, inside, failed, before⟩ := eachNumbered_error_iff.mp failed
    refine ⟨r, c, entry, entryAt_eq_some_iff.mpr ⟨row, rowAt, inside⟩, failed, ?_⟩
    intro r' c' earlier order found
    obtain ⟨other, otherAt, here⟩ := entryAt_eq_some_iff.mp found
    cases order with
    | inl higher =>
      obtain ⟨results, success⟩ := above r' other higher otherAt
      obtain ⟨result, _, made⟩ := (eachNumbered_ok success).2 c' earlier here
      exact ⟨result, made⟩
    | inr left =>
      obtain ⟨rfl, left⟩ := left
      obtain rfl := Option.some.inj (rowAt.symm.trans otherAt)
      exact before c' earlier left here
  · intro stops
    obtain ⟨r, c, entry, found, failed, passed⟩ := stops
    obtain ⟨row, rowAt, inside⟩ := entryAt_eq_some_iff.mp found
    refine ⟨r, row, rowAt, ?_, ?_⟩
    · rw [eachNumbered_error_iff]
      refine ⟨c, entry, inside, failed, ?_⟩
      intro c' earlier left here
      exact passed r c' earlier (.inr ⟨rfl, left⟩) (entryAt_eq_some_iff.mpr ⟨row, rowAt, here⟩)
    · intro r' other higher otherAt
      apply eachNumbered_succeeds
      intro c' earlier here
      exact passed r' c' earlier (.inl higher) (entryAt_eq_some_iff.mpr ⟨other, otherAt, here⟩)

theorem eachEntry_succeeds_iff : Succeeds (eachEntry f rows) ↔
    ∀ (r c : Nat) (entry : α), entryAt rows r c = some entry → Succeeds (f r c entry) := by
  constructor
  · intro success r c entry found
    obtain ⟨results, success⟩ := success
    obtain ⟨result, _, made⟩ := (eachEntry_ok success).2 r c entry found
    exact ⟨result, made⟩
  · intro each
    apply succeeds_of_ne_error
    intro problem failure
    obtain ⟨r, c, entry, found, failed, _⟩ := eachEntry_error_iff.mp failure
    obtain ⟨result, passed⟩ := each r c entry found
    cases failed.symm.trans passed

end Rows

/-! ### Cells and their places -/

section Outcome

variable {context : Context} {cell : String} {r c : Nat}

/-- Places a cell by its row and column, counted as they are written. -/
def placeEntry (context : Context) (r c : Nat) (cell : String) :
    Except PlacementError (Option Tile) :=
  place context cell c (context.document.tiles.height - r - 1)

theorem grid_eq_eachEntry (context : Context) :
    grid context = eachEntry (placeEntry context) context.document.tiles.grid := rfl

theorem tile_error_iff {x y : Nat} {problem : PlacementError} :
    tile context cell x y = .error problem ↔ Refused context cell x y problem := by
  unfold tile
  constructor
  · intro failure
    split at failure
    · next absent =>
      cases failure
      exact .undeclared absent
    · next block declared =>
      split at failure
      · next unknown =>
        cases failure
        exact .unlisted declared (by simpa using unknown)
      · next known =>
        rcases bind_error_iff.mp failure with failed | ⟨_, _, impossible⟩
        · exact .unconfigured declared (by simpa using known) failed
        · cases impossible
  · intro refused
    cases refused with
    | undeclared absent => simp [absent]
    | unlisted declared unknown => simp [declared, unknown]
    | unconfigured declared known failed =>
      simp only [declared, known, failed]
      rfl

theorem placeEntry_empty (context : Context) (r c : Nat) :
    placeEntry context r c "" = .ok none := by
  rw [placeEntry, place, if_pos rfl]

theorem placeEntry_ok_iff (named : cell ≠ "") {filled : Option Tile} :
    placeEntry context r c cell = .ok filled ↔
      ∃ made, tile context cell c (context.document.tiles.height - r - 1) = .ok made ∧
        filled = some made := by
  unfold placeEntry place
  rw [if_neg named, bind_ok_iff]
  simp [eq_comm]

theorem placeEntry_error_iff {problem : PlacementError} :
    placeEntry context r c cell = .error problem ↔ cell ≠ "" ∧
      Refused context cell c (context.document.tiles.height - r - 1) problem := by
  rw [← tile_error_iff]
  exact place_error_iff

theorem placeEntry_succeeds_iff : Succeeds (placeEntry context r c cell) ↔ (cell ≠ "" →
    Placeable context cell c (context.document.tiles.height - r - 1)) := by
  by_cases empty : cell = ""
  · subst empty
    simp [placeEntry_empty, Succeeds]
  · unfold Succeeds Placeable
    simp only [placeEntry_ok_iff empty, tile_ok_iff]
    constructor
    · intro success _
      obtain ⟨_, made, ⟨block, declared, known, configured, _⟩, _⟩ := success
      exact ⟨block, made.config, declared, known, configured⟩
    · intro placeable
      obtain ⟨block, value, declared, known, configured⟩ := placeable empty
      exact ⟨_, ⟨block.id, c, _, value, block.rotation.getD 0⟩,
        ⟨block, declared, known, configured, rfl, rfl, rfl, rfl⟩, rfl⟩

theorem grid_error_iff_firstRefusal {problem : PlacementError} :
    grid context = .error problem ↔ ∃ r c, FirstRefusal context r c problem := by
  rw [grid_eq_eachEntry, eachEntry_error_iff]
  constructor
  · intro stops
    obtain ⟨r, c, cell, found, failed, passed⟩ := stops
    obtain ⟨named, refused⟩ := placeEntry_error_iff.mp failed
    refine ⟨r, c, ⟨cell, found, named, refused⟩, ?_⟩
    intro r' c' earlier order here
    exact placeEntry_succeeds_iff.mp (passed r' c' earlier order here)
  · intro refusal
    obtain ⟨r, c, ⟨cell, found, named, refused⟩, before⟩ := refusal
    refine ⟨r, c, cell, found, placeEntry_error_iff.mpr ⟨named, refused⟩, ?_⟩
    intro r' c' earlier order here
    exact placeEntry_succeeds_iff.mpr (before r' c' earlier order here)

/-! ### Later cells -/

/-- Only the links of a processor can keep a block from being configured. -/
theorem config_withGrid_error_iff {rows : List (List String)} {block : BlockDecl} {x y level : Nat}
    (same : ∀ name, Runs block name →
      linksOf block rows x level = linksOf block context.document.tiles.grid x y)
    (problem : PlacementError) :
    config (context.withGrid rows) cell block x level = .error problem ↔
      config context cell block x y = .error problem := by
  by_cases idle : ∀ name, ¬Runs block name
  · unfold config
    by_cases powered : block.links.isSome ∧ block.id ∈ powerBlocks
    · simp [powered]
    · rw [if_neg powered, if_neg powered]
      cases configured : block.config with
      | none => simp
      | some declaration =>
        obtain ⟨name, value⟩ := declaration
        cases found : ConfigKind.ofName? name with
        | none => simp [found]
        | some kind =>
          cases kind with
          | program =>
            cases ConfigKind.name_of_ofName? found
            exact absurd ⟨configured, powered⟩ (idle value)
          | _ => simp only [found]; rfl
  · obtain ⟨name, runs⟩ := not_forall_not.mp idle
    rw [config_of_runs runs, config_of_runs runs]
    have linked : linksOf block (context.withGrid rows).document.tiles.grid x level =
        linksOf block context.document.tiles.grid x y := same name runs
    rw [linked]
    rfl

theorem Earlier.irrefl (a : Nat × Nat) : ¬Earlier a a := by
  unfold Earlier
  omega

theorem Earlier.asymm {a b : Nat × Nat} (order : Earlier a b) : ¬Earlier b a := by
  unfold Earlier at *
  omega

/-- What comes behind the first cell that cannot be placed does not change that it is this cell, and
why. -/
theorem FirstRefusal.withGrid {problem : PlacementError}
    (first : FirstRefusal context r c problem) {rows : List (List String)}
    (same : SameUpTo context rows r c) : FirstRefusal (context.withGrid rows) r c problem := by
  have configured {r' c' : Nat} {cell : String} {block : BlockDecl}
      (upTo : ¬Earlier (r, c) (r', c'))
      (found : entryAt context.document.tiles.grid r' c' = some cell)
      (declared : context.document.tiles.blocks.get? cell = some block)
      (problem : PlacementError) :
      config (context.withGrid rows) cell block c' (rows.length - r' - 1) = .error problem ↔
        config context cell block c' (context.document.tiles.height - r' - 1) = .error problem :=
    config_withGrid_error_iff (fun name => same.links r' c' cell block name upTo found declared)
      problem
  obtain ⟨⟨cell, found, named, refused⟩, before⟩ := first
  constructor
  · refine ⟨cell, (same.cells r c (Earlier.irrefl _)).trans found, named, ?_⟩
    cases refused with
    | undeclared absent => exact .undeclared absent
    | unlisted declared unknown => exact .unlisted declared unknown
    | unconfigured declared known failed =>
      exact .unconfigured declared known
        ((configured (Earlier.irrefl _) found declared problem).mpr failed)
  · intro r' c' earlier order here named
    have upTo : ¬Earlier (r, c) (r', c') := order.asymm
    have found := (same.cells r' c' upTo).symm.trans here
    obtain ⟨block, value, declared, known, success⟩ := before r' c' earlier order found named
    cases outcome : config (context.withGrid rows) earlier block c' (rows.length - r' - 1) with
    | ok value => exact ⟨block, value, declared, known, outcome⟩
    | error problem =>
      have failed := (configured upTo found declared problem).mp outcome
      cases success.symm.trans failed

end Outcome

/-- A grid is placed cell by cell, with every codec. Its error does not depend on the cells behind
the first one that cannot be placed, but for the links of processors. -/
theorem grid_placed_cell_by_cell (context : Context) : CellByCell context where
  succeeds := by
    rw [grid_eq_eachEntry]
    refine eachEntry_succeeds_iff.trans ?_
    simp only [placeEntry_succeeds_iff]
  shape _ success := (eachEntry_ok (f := placeEntry context) success).1
  empty compiled success r c cell found := by
    obtain ⟨filled, here, made⟩ :=
      (eachEntry_ok (f := placeEntry context) success).2 r c cell found
    rw [here]
    constructor
    · intro nothing
      obtain rfl := Option.some.inj nothing
      by_contra named
      obtain ⟨_, _, impossible⟩ := (placeEntry_ok_iff named).mp made
      cases impossible
    · rintro rfl
      cases (placeEntry_empty context r c).symm.trans made
      rfl
  placed compiled success r c cell found named := by
    obtain ⟨_, here, made⟩ := (eachEntry_ok (f := placeEntry context) success).2 r c cell found
    obtain ⟨placed, filled, rfl⟩ := (placeEntry_ok_iff named).mp made
    obtain ⟨block, declared, _, configured, id, x, y, turns⟩ := tile_ok_iff.mp filled
    refine ⟨block, placed.config, declared, configured, ?_⟩
    rw [here, ← id, ← x, ← y, ← turns]
  fails _ := grid_error_iff_firstRefusal
  later r c _ first _ same := grid_error_iff_firstRefusal.mpr ⟨r, c, first.withGrid same⟩

/-- A codec that has no room for links. -/
def linkless : Codec where
  fileExtension := "bin"
  pack links _ := if links = [] then .ok [] else .error (.outOfRange "link count" links.length)

/-- A processor that is linked to the last cell of its row, and a cell between them that nothing is
declared for. -/
def watchingContext : Context where
  document := {
    info := ⟨"watching", none, none, [], "1", none⟩
    tiles := {
      grid := [["p", "x", "t"]]
      blocks := .ofList [
        ("p", ⟨"micro-processor", some ["t"], some ⟨"program", "main"⟩, none⟩),
        ("t", ⟨"router", none, none, none⟩)]
      programs := .ofList [("main", .lines ["end"])] }
    consts := .empty }
  catalog := {
    name := none
    items := .empty
    blocks := .ofList [("router", 0), ("micro-processor", 1)]
    liquids := .empty
    units := .empty }
  shop := { files := .empty, base := Path.here, compiler := noCompiler, constants := .empty }
  codec := linkless

theorem watchingContext_refuses :
    FirstRefusal watchingContext 0 0 (.codec "p" (.outOfRange "link count" 1)) where
  here := ⟨"p", rfl, by decide, .unconfigured rfl rfl rfl⟩
  before r c cell order := absurd order (by unfold Earlier; omega)

/-- The target of a link may come behind every cell that cannot be placed and still decide which of
them is the first one, and so the error. -/
theorem later_cell_changes_error :
    SameCells watchingContext.document.tiles.grid [["p", "x", ""]] 0 1 ∧
    grid watchingContext = .error (.codec "p" (.outOfRange "link count" 1)) ∧
    grid (watchingContext.withGrid [["p", "x", ""]]) = .error (.missingBlock "x") := by
  refine ⟨?_, grid_error_iff_firstRefusal.mpr ⟨0, 0, watchingContext_refuses⟩, ?_⟩
  · intro r c upTo
    obtain ⟨rfl, inFront⟩ : r = 0 ∧ c < 2 := by
      unfold Earlier at upTo
      omega
    match c with
    | 0 => rfl
    | 1 => rfl
  · refine grid_error_iff_firstRefusal.mpr ⟨0, 1, ⟨"x", rfl, by decide, .undeclared rfl⟩, ?_⟩
    intro r c cell order found named
    obtain ⟨rfl, rfl⟩ : r = 0 ∧ c = 0 := by
      unfold Earlier at order
      omega
    obtain rfl := Option.some.inj found
    exact ⟨⟨"micro-processor", some ["t"], some ⟨"program", "main"⟩, none⟩, .bytes [], rfl, rfl,
      rfl⟩

end Placement

end Blueprint
