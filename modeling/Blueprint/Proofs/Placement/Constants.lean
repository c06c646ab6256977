import Blueprint.Proofs.Placement.Relevance

/-!
What constants are to placing. Blocks are placed after substitution, so constants can only reach a
grid through programs that are compiled, and these are files with source code.
-/

namespace Blueprint

open Traversal

/-- A block that a cell names runs a file with source code. -/
def Document.RunsSource (document : Document) : Prop :=
  ∃ cell ∈ document.tiles.grid.flatten, cell ≠ "" ∧
    ∃ block, document.tiles.blocks.get? cell = some block ∧
      ∃ name, Placement.Runs block name ∧
        ∃ path, document.tiles.programs.get? name = some (.path path) ∧ Program.isSource path

namespace Placement.Context

/-- The same but for the constants, those that the document lists and those for programs. -/
def withConstants (context : Context) (consts : OrderedMap Constant)
    (table : Template.ConstantTable) : Context :=
  { context with
    document := { context.document with consts := consts }
    shop := { context.shop with constants := table } }

variable (context : Context) (consts : OrderedMap Constant) (table : Template.ConstantTable)

@[simp]
theorem withConstants_info :
    (context.withConstants consts table).document.info = context.document.info := rfl

@[simp]
theorem withConstants_tiles :
    (context.withConstants consts table).document.tiles = context.document.tiles := rfl

@[simp]
theorem withConstants_catalog :
    (context.withConstants consts table).catalog = context.catalog := rfl

@[simp]
theorem withConstants_shop :
    (context.withConstants consts table).shop = { context.shop with constants := table } := rfl

@[simp]
theorem withConstants_codec :
    (context.withConstants consts table).codec = context.codec := rfl

end Placement.Context

/-- Without a compiler at work, code is what is written. -/
theorem Program.load_constants {program : Program}
    (uncompiled : ∀ path, program = .path path → ¬isSource path) (shop : Workshop)
    (table : Template.ConstantTable) :
    program.load { shop with constants := table } = program.load shop := by
  cases program with
  | lines code => rfl
  | path relative =>
    have plain := uncompiled relative rfl
    simp only [load, pathIn, if_neg plain]

namespace Placement

variable {context : Context} {consts : OrderedMap Constant} {table : Template.ConstantTable}

theorem program_constants {name : String}
    (uncompiled : ∀ path, context.document.tiles.programs.get? name = some (.path path) →
      ¬Program.isSource path) (cell : String) (links : List Link) :
    program (context.withConstants consts table) cell links name =
      program context cell links name := by
  rw [program, program, context.withConstants_tiles, context.withConstants_shop,
    context.withConstants_codec]
  cases found : context.document.tiles.programs.get? name with
  | none => rfl
  | some source =>
    have loaded := source.load_constants (fun path same => uncompiled path (same ▸ found))
      context.shop table
    simp only [loaded]

theorem config_constants {block : BlockDecl}
    (uncompiled : ∀ name, Runs block name → ∀ path,
      context.document.tiles.programs.get? name = some (.path path) → ¬Program.isSource path)
    (cell : String) (x y : Nat) :
    config (context.withConstants consts table) cell block x y =
      config context cell block x y := by
  by_cases idle : ∀ name, ¬Runs block name
  · exact config_congr_of_idle idle (congrArg Tiles.grid (context.withConstants_tiles consts table))
      (context.withConstants_catalog consts table) cell x y
  · obtain ⟨name, runs⟩ := not_forall_not.mp idle
    rw [config_of_runs runs, config_of_runs runs, program_constants (uncompiled name runs),
      context.withConstants_tiles]

theorem tile_constants (uncompiled : ¬context.document.RunsSource)
    {cell : String} (inside : cell ∈ context.document.tiles.grid.flatten) (named : cell ≠ "")
    (x y : Nat) :
    tile (context.withConstants consts table) cell x y = tile context cell x y := by
  rw [tile, tile, context.withConstants_tiles, context.withConstants_catalog]
  cases declared : context.document.tiles.blocks.get? cell with
  | none => rfl
  | some block =>
    have plain : ∀ name, Runs block name → ∀ path,
        context.document.tiles.programs.get? name = some (.path path) →
          ¬Program.isSource path := fun name runs path found source =>
      uncompiled ⟨cell, inside, named, block, declared, name, runs, path, found, source⟩
    simp only [config_constants plain]

/-- Constants reach no tile unless a program is compiled. -/
theorem grid_constants (uncompiled : ¬context.document.RunsSource)
    (consts : OrderedMap Constant) (table : Template.ConstantTable) :
    grid (context.withConstants consts table) = grid context :=
  grid_congr (congrArg Tiles.grid (context.withConstants_tiles consts table))
    fun _ inside named => tile_constants uncompiled inside named

end Placement

end Blueprint
