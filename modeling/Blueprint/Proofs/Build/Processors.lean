import Blueprint.Proofs.Build.Stages
import Blueprint.Proofs.Placement.Grid
import Blueprint.Proofs.Placement.Links
import Blueprint.Proofs.Schematic.Layout

/-!
What the configurations of the processors of a built schematic say when they are read back: the
code of their programs, and links that lead to the cells that their declarations name.
-/

namespace Blueprint

open Traversal

namespace Placement

/-- A configuration holds the code of a program, and links to all cells of the names in a list, in
the order of the names and for each from the bottom row to the top and from left to right. -/
def Holds (value : BlockConfig) (code : List String) (names : List String)
    (grid : List (List String)) (x y : Nat) : Prop :=
  ∃ bytes links, value = .bytes bytes ∧
    ProcessorLayout.decode bytes = some (ProcessorLayout.joinLines code, links) ∧
    (∀ link ∈ links, link.name = "!!") ∧
    links.map (destination x y) = names.flatMap fun name =>
      (occurrences grid name).map fun target => ((target.1 : Int), (target.2 : Int))

section Standard

variable {codec : Codec} {links : List Link} {code : List String} {bytes : List UInt8}

/-- What the standard codec packs is the layout of a processor. -/
theorem encode_of_pack (standard : codec = .standard) (packed : codec.pack links code = .ok bytes) :
    ProcessorLayout.encode links code = .ok bytes := by
  subst standard
  exact mapError_ok_iff.mp packed

theorem pack_of_encode (standard : codec = .standard)
    (encoded : ProcessorLayout.encode links code = .ok bytes) :
    codec.pack links code = .ok bytes := by
  subst standard
  exact mapError_ok_iff.mpr encoded

end Standard

/-- The configuration of a processor inside a grid of at most `2^31 - 1` rows and columns. -/
theorem holds_of_config {context : Context} {cell name : String} {block : BlockDecl} {x y : Nat}
    {value : BlockConfig} (standard : context.codec = .standard)
    (success : config context cell block x y = .ok value) (runs : Runs block name)
    (low : context.document.tiles.height < 2147483648)
    (narrow : context.document.tiles.width < 2147483648)
    (here : cellAt context.document.tiles.grid x y = some cell) :
    ∃ source code, context.document.tiles.programs.get? name = some source ∧
      source.load context.shop = .ok code ∧
      Holds value code (block.links.getD []) context.document.tiles.grid x y := by
  rw [config_of_runs runs] at success
  obtain ⟨source, code, bytes, found, loaded, packed, rfl⟩ := program_ok_iff.mp success
  obtain ⟨column, row⟩ := cellAt_inside here
  have encoded := encode_of_pack standard packed
  exact ⟨source, code, found, loaded, bytes, _, rfl, ProcessorLayout.decode_encode encoded,
    links_named _ _ x y, links_destinations _ low narrow column row⟩

end Placement

open Placement (cellAt Runs Holds)

/-- Every tile of a built schematic stands for a declared cell, and if the block of the cell runs a
program, then the configuration of the tile holds the code that the program loads to and the
links of the block. The codec is the standard one. -/
theorem build_lays_out_programs {settings : Settings} {text : String} {schematic : Schematic}
    (standard : settings.codec = .standard) (success : build settings text = .ok schematic)
    (low : schematic.height < 2147483648) (narrow : schematic.width < 2147483648) :
    ∃ document, Build.readDocument settings text = .ok document ∧
      let context := Build.context settings document
      let tiles := context.document.tiles
      ∀ placed ∈ schematic.tiles, ∃ cell block,
        cellAt tiles.grid placed.x placed.y = some cell ∧ tiles.blocks.get? cell = some block ∧
        ∀ name, Runs block name → ∃ source code,
          tiles.programs.get? name = some source ∧ source.load context.shop = .ok code ∧
          Holds placed.config code (block.links.getD []) tiles.grid placed.x placed.y := by
  obtain ⟨document, read, assembled⟩ := Build.build_ok_iff.mp success
  obtain ⟨_, compiled, filled, rfl⟩ := Build.assemble_ok_iff.mp assembled
  refine ⟨document, read, ?_⟩
  intro context tiles placed member
  obtain ⟨cell, here, _, made⟩ := Placement.tile_of_mem filled member
  obtain ⟨block, declared, _, configured, _⟩ := Placement.tile_ok_iff.mp made
  refine ⟨cell, block, here, declared, ?_⟩
  intro name runs
  exact Placement.holds_of_config standard configured runs low narrow here

/-- A processor to the left of a router and above another one, linked to both. -/
def linkedDocument : Document where
  info := ⟨"linked", none, none, [], "1", none⟩
  tiles := {
    grid := [["p", "r"], ["r"]]
    blocks := .ofList [
      ("p", ⟨"micro-processor", some ["r"], some ⟨"program", "main"⟩, none⟩),
      ("r", ⟨"router", none, none, none⟩)]
    programs := .ofList [("main", .lines ["noop", "end"])] }
  consts := .empty

def linkedText : String := linkedDocument.encode.compact

def linkedBytes : List UInt8 :=
  [1, 0, 0, 0, 8, 110, 111, 111, 112, 10, 101, 110, 100, 0, 0, 0, 2,
    0, 2, 33, 33, 0, 0, 255, 255, 0, 2, 33, 33, 0, 1, 0, 0]

def linkedSchematic : Schematic where
  height := 2
  width := 2
  version := 1
  tags := .ofList [("name", "linked"), ("description", ""), ("labels", "[]")]
  labels := []
  tiles := [
    ⟨"micro-processor", 0, 1, .bytes linkedBytes, 0⟩,
    ⟨"router", 1, 1, .null, 0⟩,
    ⟨"router", 0, 0, .null, 0⟩]

theorem linked_built : (build Build.plainSettings linkedText).toOption = some linkedSchematic := by
  rw [linkedText, Build.build_plain]
  decide +kernel

theorem linked_read :
    (Build.readDocument Build.plainSettings linkedText).toOption = some linkedDocument := by
  rw [linkedText, Build.readDocument_plain]
  rfl

theorem build_lays_out_programs_linked : Build.plainSettings.codec = .standard ∧
    ∃ placed ∈ linkedSchematic.tiles,
    build Build.plainSettings linkedText = .ok linkedSchematic ∧
    linkedSchematic.height < 2147483648 ∧ linkedSchematic.width < 2147483648 ∧
    Holds placed.config ["noop", "end"] ["r"] linkedDocument.tiles.grid placed.x placed.y := by
  have built := ok_of_toOption linked_built
  have low : linkedSchematic.height < 2147483648 := by decide
  have narrow : linkedSchematic.width < 2147483648 := by decide
  obtain ⟨document, read, all⟩ := build_lays_out_programs rfl built low narrow
  cases read.symm.trans (ok_of_toOption linked_read)
  have first : (⟨"micro-processor", 0, 1, .bytes linkedBytes, 0⟩ : Tile) ∈ linkedSchematic.tiles :=
    List.mem_cons_self
  obtain ⟨cell, block, here, declared, holds⟩ := all _ first
  have unchanged :
      (Build.context Build.plainSettings linkedDocument).document = linkedDocument := by
    decide +kernel
  rw [unchanged] at here declared holds
  obtain rfl : "p" = cell := Option.some.inj here
  obtain rfl : ⟨"micro-processor", some ["r"], some ⟨"program", "main"⟩, none⟩ = block :=
    Option.some.inj declared
  have runs : Runs ⟨"micro-processor", some ["r"], some ⟨"program", "main"⟩, none⟩ "main" :=
    ⟨rfl, by decide⟩
  obtain ⟨source, code, found, loaded, held⟩ := holds "main" runs
  cases found
  cases loaded
  exact ⟨rfl, _, first, built, low, narrow, held⟩

end Blueprint
