import Blueprint.Proofs.Placement.Grid

/-!
What placing depends on. Of the declared blocks only those count that the grid names, and of the
programs only those that such a block runs; both are looked up by name, so it does not matter in
which order they are declared, or what else is.
-/

namespace Blueprint

open Traversal

namespace Placement

/-- A cell of the grid has a name, under which a block is declared. -/
def Context.Places (context : Context) (cell : String) (block : BlockDecl) : Prop :=
  cell ∈ context.document.tiles.grid.flatten ∧ cell ≠ "" ∧
    context.document.tiles.blocks.get? cell = some block

/-- Two contexts differ at most in declarations that the first one does not use, in the order of
declarations, and outside of the tiles. -/
structure Context.Agrees (first second : Context) : Prop where
  grid : second.document.tiles.grid = first.document.tiles.grid
  catalog : second.catalog = first.catalog
  shop : second.shop = first.shop
  codec : second.codec = first.codec
  blocks : ∀ cell ∈ first.document.tiles.grid.flatten, cell ≠ "" →
    second.document.tiles.blocks.get? cell = first.document.tiles.blocks.get? cell
  programs : ∀ cell block name, first.Places cell block → Runs block name →
    second.document.tiles.programs.get? name = first.document.tiles.programs.get? name

variable {first second : Context} {cell : String}

theorem config_agrees (agrees : first.Agrees second) {block : BlockDecl}
    (placed : first.Places cell block) (x y : Nat) :
    config second cell block x y = config first cell block x y := by
  by_cases idle : ∀ name, ¬Runs block name
  · exact config_congr_of_idle idle agrees.grid agrees.catalog cell x y
  · obtain ⟨name, runs⟩ := not_forall_not.mp idle
    rw [config_of_runs runs, config_of_runs runs, program, program, agrees.grid, agrees.shop,
      agrees.codec, agrees.programs cell block name placed runs]

theorem tile_agrees (agrees : first.Agrees second)
    (inside : cell ∈ first.document.tiles.grid.flatten) (named : cell ≠ "") (x y : Nat) :
    tile second cell x y = tile first cell x y := by
  unfold tile
  rw [agrees.blocks cell inside named, agrees.catalog]
  cases declared : first.document.tiles.blocks.get? cell with
  | none => rfl
  | some block => simp only [config_agrees agrees ⟨inside, named, declared⟩ x y]

/-- Declarations that are not used have no effect. Contexts with the same grid, catalog, workshop and
codec lead to the same tiles or to the same error if they have the same declaration for every name
in the grid and the same program for every name that a placed block runs. -/
theorem unused_declarations_ignored {first second : Context} (agrees : first.Agrees second) :
    grid second = grid first :=
  grid_congr agrees.grid fun _ inside named => tile_agrees agrees inside named

/-- A processor above a router and beside a power node, whose own program is not looked up. -/
def processorContext : Context where
  document := {
    info := ⟨"processor", none, none, [], "1", none⟩
    tiles := {
      grid := [["p", "n"], ["r", ""]]
      blocks := .ofList [
        ("p", ⟨"micro-processor", some ["r"], some ⟨"program", "main"⟩, none⟩),
        ("n", ⟨"power-node", some ["p"], some ⟨"program", "spare"⟩, none⟩),
        ("r", ⟨"router", none, none, some 2⟩)]
      programs := .ofList [("main", .lines ["end"])] }
    consts := .empty }
  catalog := {
    name := none
    items := .empty
    blocks := .ofList [("router", 0), ("power-node", 1), ("micro-processor", 2)]
    liquids := .empty
    units := .empty }
  shop := { files := .empty, base := Path.here, compiler := noCompiler, constants := .empty }
  codec := .standard

/-- The declarations in another order, with blocks and programs among them that are of no use. -/
def clutteredContext : Context :=
  { processorContext with document := {
      info := ⟨"cluttered", none, none, ["a"], "2", none⟩
      tiles := { processorContext.document.tiles with
        blocks := .ofList [
          ("", ⟨"nothing", none, none, none⟩),
          ("r", ⟨"router", none, none, some 2⟩),
          ("u", ⟨"unknown", some [""], some ⟨"colour", "red"⟩, some 200⟩),
          ("n", ⟨"power-node", some ["p"], some ⟨"program", "spare"⟩, none⟩),
          ("p", ⟨"micro-processor", some ["r"], some ⟨"program", "main"⟩, none⟩)]
        programs := .ofList [("spare", .path "absent.mlogx"), ("main", .lines ["end"])] }
      consts := .ofList [("unused", .text "$")] } }

def processorTiles : List (List (Option Tile)) :=
  [[some ⟨"micro-processor", 0, 1, .bytes [1, 0, 0, 0, 3, 101, 110, 100, 0, 0, 0, 1, 0, 2, 33, 33, 0,
      0, 255, 255], 0⟩,
    some ⟨"power-node", 1, 1, .pointArray [⟨-1, 0⟩], 0⟩],
   [some ⟨"router", 0, 0, .null, 2⟩, none]]

theorem processor_compiled : grid processorContext = .ok processorTiles :=
  ok_of_toOption (by decide +kernel)

theorem processor_agrees : processorContext.Agrees clutteredContext where
  grid := rfl
  catalog := rfl
  shop := rfl
  codec := rfl
  blocks := by decide
  programs := by
    rintro cell block name ⟨inside, _, declared⟩ ⟨configured, unpowered⟩
    have listed : cell ∈ ["p", "n", "r", ""] := inside
    simp only [List.mem_cons, List.not_mem_nil, or_false] at listed
    rcases listed with rfl | rfl | rfl | rfl
    · cases declared
      cases configured
      rfl
    · cases declared
      exact absurd ⟨rfl, by decide⟩ unpowered
    · cases declared
      cases configured
    · cases declared

theorem unused_declarations_ignored_cluttered :
    processorContext.Agrees clutteredContext ∧ grid clutteredContext = .ok processorTiles :=
  ⟨processor_agrees, (unused_declarations_ignored processor_agrees).trans processor_compiled⟩

end Placement

end Blueprint
