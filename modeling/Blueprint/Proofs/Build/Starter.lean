import Blueprint.CommandLine.Run
import Blueprint.Proofs.Build.Precedence
import Blueprint.Proofs.Catalog
import Blueprint.Proofs.Document.Starter
import Blueprint.Proofs.Placement.Grid
import Blueprint.Proofs.Template.Bare

/-!
What is written for a new schematic can be built. Whatever the name, the description and the authors
are, they only become text of the document: the one block and its cell do not refer to them.
-/

namespace Blueprint

/-! ### A grid of one cell -/

theorem Placement.grid_singleton {context : Context} {cell : String} {placed : Tile}
    (single : context.document.tiles.grid = [[cell]]) (named : cell ≠ "")
    (made : tile context cell 0 0 = .ok placed) : grid context = .ok [[some placed]] := by
  have here : place context cell 0 0 = .ok (some placed) := by
    rw [place, if_neg named, made]
    rfl
  have only : row context [cell] 0 = .ok [some placed] := by
    refine Traversal.mapM_ok_iff.mpr ?_
    exact .cons here .nil
  unfold grid Tiles.height
  dsimp only
  rw [single]
  exact Traversal.mapM_ok_iff.mpr (.cons only .nil)

theorem Build.get?_tags_name {info : Info} (untagged : info.tags = none) :
    (tags info).get? "name" = some info.name := by
  rw [tags, untagged]
  rfl

/-! ### Building the document to start from -/

namespace Starter

open Build

variable (settings : Settings) (name : String) (description authors : Option String)

/-- The cell does not refer to anything, whatever the constants are. -/
theorem context_grid :
    (context settings (typed name description authors)).document.tiles.grid =
      [["holyBlock"]] := by
  change [[Template.substitute _ "holyBlock"]] = _
  rw [Template.substitute_of_free (by decide)]

theorem context_block :
    (context settings (typed name description authors)).document.tiles.blocks.get? "holyBlock" =
      some ⟨"router", none, none, none⟩ := by
  rw [get?_context_blocks]
  change some (Template.substituteBlock _ ⟨"router", none, none, none⟩) = _
  rw [Template.substituteBlock, Template.substitute_of_free (by decide)]
  rfl

theorem grid_context (known : settings.catalog.hasBlock "router" = true) :
    Placement.grid (context settings (typed name description authors)) =
      .ok [[some ⟨"router", 0, 0, .null, 0⟩]] := by
  have made : Placement.tile (context settings (typed name description authors)) "holyBlock" 0 0 =
      .ok ⟨"router", 0, 0, .null, 0⟩ :=
    Placement.tile_ok_iff.mpr ⟨_, context_block settings name description authors, known, rfl,
      rfl, rfl, rfl, rfl⟩
  exact Placement.grid_singleton (context_grid settings name description authors) (by decide) made

theorem reads (bundled : settings.ChecksBundled) :
    Reads settings ((document name description authors).indented ++ "\n")
      (typed name description authors) :=
  ⟨_, _, parseSource_indented name description authors, bundled,
    Schema.finding?_eq_none_iff.mpr (valid name description authors),
    decode_document name description authors⟩

/-- The document builds in all settings with the bundled schema and a catalog that has routers. -/
theorem build_indented (bundled : settings.ChecksBundled)
    (known : settings.catalog.hasBlock "router" = true) :
    build settings ((document name description authors).indented ++ "\n") =
      .ok (.ofGrid 1 1
        (tags (context settings (typed name description authors)).document.info)
        [[some ⟨"router", 0, 0, .null, 0⟩]]) := by
  have once : ¬(typed name description authors).info.LabelledTwice := by
    rintro ⟨labelled, _⟩
    cases labelled
  have ends := Ends.built (reads settings name description authors bundled) once
    (grid_context settings name description authors known)
  exact ends.build_eq

end Starter

open CommandLine (InitRequest starterText)

/-- The text that is written for a new schematic is read back as the document to start from, which
satisfies the bundled schema, and it builds with every table of glyphs and in every file tree. The
result is one router in the only cell. A name without a dollar sign is the name of the schematic. -/
theorem starter_builds (request : InitRequest) (glyphs : Template.GlyphTable) (files : FileTree) :
    let document := Starter.document request.name request.description request.authors
    parseSource (starterText request) = .ok document ∧
    Build.validate .standard Schema.bundledJson document = .ok () ∧
    ∃ schematic, build { Settings.standard with glyphs, files } (starterText request) =
        .ok schematic ∧
      schematic.width = 1 ∧ schematic.height = 1 ∧
      schematic.tiles = [⟨"router", 0, 0, .null, 0⟩] ∧
      ('$' ∉ request.name.toList → schematic.name? = some request.name) := by
  obtain ⟨output, name, description, authors⟩ := request
  intro document
  have built := Starter.build_indented { Settings.standard with glyphs, files } name description
    authors Settings.standard_checksBundled Catalog.bundled_has_router_and_power_node.1
  have valid : Build.validate .standard Schema.bundledJson document = .ok () :=
    (Build.validate_bundled_ok_iff Settings.standard_checksBundled).mpr
      (Starter.valid name description authors)
  refine ⟨Starter.parseSource_indented name description authors, valid, _, built, rfl, rfl, rfl,
    ?_⟩
  intro free
  refine (Build.get?_tags_name rfl).trans (congrArg some ?_)
  exact Template.substitute_of_free free _

/-- A request whose texts look like JSON and like references to each other. -/
def trickyRequest : InitRequest where
  output := Text.utf8 "new.json"
  name := "\"\x7d,\\u0041(name) \n"
  description := some "$(description) $name \\$(authors)"
  authors := some "$(name),, \"]"

theorem starter_builds_tricky : ∃ schematic,
    build Settings.standard (starterText trickyRequest) = .ok schematic ∧
    schematic.tiles = [⟨"router", 0, 0, .null, 0⟩] ∧
    schematic.name? = some "\"\x7d,\\u0041(name) \n" := by
  obtain ⟨_, _, schematic, built, _, _, tiles, named⟩ := starter_builds trickyRequest .empty .empty
  exact ⟨schematic, built, tiles, named (by decide)⟩

end Blueprint
