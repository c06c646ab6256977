import Blueprint.Proofs.OrderedMap
import Blueprint.Proofs.Template.Bare
import Blueprint.Template.Document

/-!
Documents that refer to no constants. No constant changes their text, whatever it is called and
whatever its value is.
-/

namespace Blueprint

/-- No text that is substituted has a dollar sign in it. -/
structure Document.DollarFree (document : Document) : Prop where
  name : '$' ∉ document.info.name.toList
  description : ∀ text, document.info.description = some text → '$' ∉ text.toList
  labels : ∀ labels, document.info.labels = some labels → ∀ label ∈ labels, '$' ∉ label.toList
  cells : ∀ row ∈ document.tiles.grid, ∀ cell ∈ row, '$' ∉ cell.toList
  ids : ∀ entry ∈ document.tiles.blocks.entries, '$' ∉ entry.2.id.toList
  values : ∀ entry ∈ document.tiles.blocks.entries, ∀ config, entry.2.config = some config →
    '$' ∉ config.value.toList

/-- The document with no description in place of an empty one. -/
def Document.withoutBlank (document : Document) : Document :=
  { document with info := { document.info with
      description := document.info.description.filter (· ≠ "") } }

namespace Template

variable {document : Document}

theorem map_substitute_of_free {texts : List String} (none : ∀ text ∈ texts, '$' ∉ text.toList)
    (table : ConstantTable) : texts.map (substitute table) = texts :=
  calc texts.map (substitute table)
    _ = texts.map id :=
      List.map_congr_left fun text member => substitute_of_free (none text member) table
    _ = texts := List.map_id texts

theorem substituteConfig_of_free {config : ConfigDecl} (none : '$' ∉ config.value.toList)
    (table : ConstantTable) : substituteConfig table config = config := by
  rw [substituteConfig, substitute_of_free none]

theorem substituteBlock_of_free {block : BlockDecl} (id : '$' ∉ block.id.toList)
    (value : ∀ config, block.config = some config → '$' ∉ config.value.toList)
    (table : ConstantTable) : substituteBlock table block = block := by
  obtain ⟨name, links, config, rotation⟩ := block
  cases config with
  | none => rw [substituteBlock, substitute_of_free id, Option.map_none]
  | some config =>
    rw [substituteBlock, substitute_of_free id, Option.map_some,
      substituteConfig_of_free (value config rfl)]

theorem resolvedDescription_of_free (free : document.DollarFree) (table : ConstantTable) :
    resolvedDescription table document = document.info.description.filter (· ≠ "") := by
  unfold resolvedDescription
  cases described : document.info.description with
  | none => rfl
  | some text =>
    rw [Option.filter_some]
    split
    · rw [Option.map_some, substitute_of_free (free.description text described)]
    · rfl

theorem substituteTiles_of_free (free : document.DollarFree) (table : ConstantTable) :
    substituteTiles table document.tiles = document.tiles := by
  have cells : document.tiles.grid.map (·.map (substitute table)) = document.tiles.grid :=
    calc document.tiles.grid.map (·.map (substitute table))
      _ = document.tiles.grid.map id := List.map_congr_left fun row member =>
        map_substitute_of_free (free.cells row member) table
      _ = document.tiles.grid := List.map_id document.tiles.grid
  have blocks : document.tiles.blocks.mapValues (fun _ block => substituteBlock table block) =
      document.tiles.blocks := OrderedMap.mapValues_eq_self fun entry member =>
    substituteBlock_of_free (free.ids entry member) (free.values entry member) table
  rw [substituteTiles, cells, blocks]

/-- Substitution leaves such a document alone. -/
theorem substituteDocument_of_free (free : document.DollarFree) (table : ConstantTable) :
    substituteDocument table document = document.withoutBlank := by
  have labels : document.info.labels.map (·.map (substitute (finalTable table document))) =
      document.info.labels := by
    cases labelled : document.info.labels with
    | none => rfl
    | some labels => rw [Option.map_some, map_substitute_of_free (free.labels labels labelled)]
  dsimp only [substituteDocument]
  rw [substitute_of_free free.name, resolvedDescription_of_free free, labels,
    substituteTiles_of_free free, Document.withoutBlank]

end Template

end Blueprint
