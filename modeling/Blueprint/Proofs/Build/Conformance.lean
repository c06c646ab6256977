import Blueprint.Proofs.Document.Vetted
import Blueprint.Proofs.Placement.Grid

/-!
What a build owes to the schema of documents. A document that was checked against it names known
kinds of configuration only and turns blocks by at most three quarters. Substitution rewrites ids
and values but neither of these, so the tiles of a schematic have what the schema promised, and
their ids and numbers are those of the catalog.
-/

namespace Blueprint

open Placement (cellAt)
open Template (ConstantTable substitute)

/-- A tile has the substituted id and the rotation of a declared block, both within bounds, and a
configuration that is a number of the catalog stands for the substituted value of the block. -/
structure Tile.Renders (settings : Settings) (table : ConstantTable) (block : BlockDecl)
    (tile : Tile) : Prop where
  id : tile.block = substitute table block.id
  known : settings.catalog.hasBlock tile.block = true
  rotation : tile.rotation = block.rotation.getD 0
  quarters : tile.rotation ≤ 3
  content : ∀ kind number, tile.config = .content kind number → ∃ value,
    block.config = some ⟨kind.name, value⟩ ∧
      settings.catalog.lookup kind (substitute table value) = some number

/-- Every tile of a schematic renders the block that the cell at its position declares, in the
document that a text is read as. -/
def Schematic.Renders (settings : Settings) (text : String) (schematic : Schematic) : Prop :=
  ∃ document, Build.readDocument settings text = .ok document ∧
    let table := Template.finalTable (Build.constants settings document) document
    ∀ tile ∈ schematic.tiles, ∃ cell block,
      cellAt (document.tiles.grid.map (·.map (substitute table))) tile.x tile.y = some cell ∧
        document.tiles.blocks.get? cell = some block ∧ tile.Renders settings table block

namespace Build

variable {settings : Settings} {text : String} {document : Document} {cell : String} {x y : Nat}

/-- A valid block has no kind of configuration that is refused, whatever else is wrong with it. -/
theorem tile_ne_unsupportedKind {kind : String}
    (valid : ∀ block, document.tiles.blocks.get? cell = some block → block.Valid) :
    Placement.tile (context settings document) cell x y ≠ .error (.unsupportedKind kind) := by
  intro failure
  rcases Placement.tile_error failure with ⟨placed, declared, failed⟩ | ordinary
  · rw [get?_context_blocks, Option.map_eq_some_iff] at declared
    obtain ⟨block, declared, rfl⟩ := declared
    rcases Placement.config_error failed with ⟨_, configured, unknown, _⟩ |
      ⟨_, _, _, _, _, _, _, _, impossible⟩ | ordinary
    -- Substitution leaves the kind as it is, and the schema knows it.
    · obtain ⟨config, written, rfl⟩ := Option.map_eq_some_iff.mp configured
      obtain ⟨known, found⟩ := (valid block declared).kindKnown config written
      cases unknown.symm.trans found
    · cases impossible
    · exact ordinary.1 kind rfl
  · exact ordinary.1 kind rfl

theorem renders_of_tile {tile : Tile}
    (made : Placement.tile (context settings document) cell x y = .ok tile)
    (valid : ∀ block, document.tiles.blocks.get? cell = some block → block.Valid) :
    ∃ block, document.tiles.blocks.get? cell = some block ∧ tile.Renders settings
      (Template.finalTable (constants settings document) document) block := by
  obtain ⟨placed, declared, known, configured, sameId, _, _, turned⟩ :=
    Placement.tile_ok_iff.mp made
  rw [get?_context_blocks, Option.map_eq_some_iff] at declared
  obtain ⟨block, declared, rfl⟩ := declared
  refine ⟨block, declared, sameId, sameId ▸ known, turned, ?_, ?_⟩
  · rw [turned]
    change block.rotation.getD 0 ≤ 3
    cases turns : block.rotation with
    | none => decide
    | some rotation => exact (valid block declared).quarters rotation turns
  · intro kind number same
    rw [same] at configured
    obtain ⟨value, substituted, found⟩ := Placement.config_content configured
    obtain ⟨⟨name, source⟩, written, same⟩ := Option.map_eq_some_iff.mp substituted
    obtain rfl : name = kind.name := congrArg ConfigDecl.kind same
    obtain rfl : substitute _ source = value := congrArg ConfigDecl.value same
    exact ⟨source, written, found⟩

theorem build_ne_unsupportedKind (bundled : settings.ChecksBundled) (kind : String) :
    build settings text ≠ .error (.placement (.unsupportedKind kind)) := by
  intro failure
  rcases build_error failure with ⟨document, _, read, failed, same⟩ | early
  · cases same
    obtain ⟨cell, x, y, _, _, failed⟩ := Placement.exists_unplaced failed
    exact tile_ne_unsupportedKind (fun _ => declared_valid bundled read) failed
  · exact early _ rfl

theorem build_renders (bundled : settings.ChecksBundled) {schematic : Schematic}
    (success : build settings text = .ok schematic) : schematic.Renders settings text := by
  obtain ⟨document, read, assembled⟩ := build_ok_iff.mp success
  obtain ⟨_, compiled, placed, rfl⟩ := assemble_ok_iff.mp assembled
  refine ⟨document, read, ?_⟩
  intro table tile member
  obtain ⟨cell, here, _, made⟩ := Placement.tile_of_mem placed member
  obtain ⟨block, declared, renders⟩ := renders_of_tile made fun _ => declared_valid bundled read
  exact ⟨cell, block, here, declared, renders⟩

end Build

/-- With the schema of documents, a build never refuses a kind of configuration, and every tile of
a built schematic has the substituted id of its declaration, which the catalog knows, a rotation of
at most three quarters, and if it refers to content then by the number that the catalog has for the
substituted value under the declared kind. This holds for every codec. -/
theorem checked_builds_conform (settings : Settings) (text : String)
    (bundled : settings.ChecksBundled) :
    (∀ kind, build settings text ≠ .error (.placement (.unsupportedKind kind))) ∧
    ∀ schematic, build settings text = .ok schematic → schematic.Renders settings text :=
  ⟨Build.build_ne_unsupportedKind bundled, fun _ => Build.build_renders bundled⟩

/-- A codec that refuses every processor, for no reason. -/
def refusing : Codec := ⟨"none", fun _ _ => .error (.io "refused")⟩

/-- A small catalog, and documents that are checked. -/
def sorterSettings : Settings where
  base := Path.here
  catalog := {
    name := none
    items := .ofList [("copper", 7)]
    blocks := .ofList [("sorter", 2)]
    liquids := .empty
    units := .empty }
  glyphs := .empty
  schema := Schema.bundledJson
  validator := .standard
  compiler := noCompiler
  codec := .standard
  files := .empty

theorem sorterSettings_checksBundled : sorterSettings.ChecksBundled :=
  Settings.standard_checksBundled

/-- A turned sorter whose id and item are written with constants. -/
def sorterDocument : Document where
  info := ⟨"sorters", none, none, [], "1", none⟩
  tiles := {
    grid := [["", "s"]]
    blocks := .ofList [("s", ⟨"$(k)er", none, some ⟨"item", "$(ore)"⟩, some 3⟩)]
    programs := .empty }
  consts := .ofList [("k", .text "sort"), ("ore", .text "copper")]

def sorterText : String := sorterDocument.encode.compact

theorem sorter_tiles : (build sorterSettings sorterText).toOption.map Schematic.tiles =
    some [⟨"sorter", 1, 0, .content .item 7, 3⟩] := by
  have valid : Build.validate .standard Schema.bundledJson sorterDocument.encode = .ok () :=
    (Build.validate_bundled_ok_iff Settings.standard_checksBundled).mpr
      (Option.isNone_iff_eq_none.mp (by decide +kernel))
  have read : Build.readDocument sorterSettings sorterText = _ :=
    Build.readDocument_of_valid (parseSource_encode_compact sorterDocument) valid
  rw [build, read, recovers_document.back]
  decide +kernel

theorem checked_builds_conform_sorter : sorterSettings.ChecksBundled ∧
    (∃ schematic, build sorterSettings sorterText = .ok schematic ∧
      schematic.tiles = [⟨"sorter", 1, 0, .content .item 7, 3⟩] ∧
      schematic.Renders sorterSettings sorterText) ∧
    ∀ kind, build { sorterSettings with codec := refusing } sorterText ≠
      .error (.placement (.unsupportedKind kind)) := by
  obtain ⟨_, renders⟩ := checked_builds_conform sorterSettings sorterText
    sorterSettings_checksBundled
  obtain ⟨refused, _⟩ := checked_builds_conform { sorterSettings with codec := refusing } sorterText
    sorterSettings_checksBundled
  obtain ⟨schematic, success, tiles⟩ := Option.map_eq_some_iff.mp sorter_tiles
  have built := Traversal.ok_of_toOption success
  exact ⟨sorterSettings_checksBundled, ⟨schematic, built, tiles, renders schematic built⟩, refused⟩

end Blueprint
