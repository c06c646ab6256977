import Blueprint.Template.Substitute
import Blueprint.Template.Glyphs

/-!
Substitution throughout a document. The name comes first and then the description, and later text
sees both as they have become. Links, tags and programs keep their text.
-/

namespace Blueprint.Template

/-- The constants of a document and of the glyphs. Of equal names the last one counts. -/
def ConstantTable.ofDocument (document : Document) (glyphs : GlyphTable) : ConstantTable :=
  ConstantTable.empty.insertAll ([
    ("name", .text document.info.name),
    ("version", .text document.info.version),
    ("authors", .list document.info.authors)]
    ++ document.consts.entries
    ++ glyphs.entries.map fun entry => (entry.1, .text entry.2))

/-- The name is known to all text after it. -/
def tableWithName (table : ConstantTable) (document : Document) : ConstantTable :=
  table.insert "name" (.text (substitute table document.info.name))

/-- An empty description is none. -/
def resolvedDescription (table : ConstantTable) (document : Document) : Option String :=
  (document.info.description.filter (· ≠ "")).map (substitute (tableWithName table document))

/-- The table that labels, cells and declarations are substituted with. -/
def finalTable (table : ConstantTable) (document : Document) : ConstantTable :=
  match (resolvedDescription table document).filter (· ≠ "") with
  | some description => (tableWithName table document).insert "description" (.text description)
  | none => tableWithName table document

def substituteConfig (table : ConstantTable) (config : ConfigDecl) : ConfigDecl :=
  { config with value := substitute table config.value }

def substituteBlock (table : ConstantTable) (block : BlockDecl) : BlockDecl :=
  { block with
    id := substitute table block.id
    config := block.config.map (substituteConfig table) }

def substituteTiles (table : ConstantTable) (tiles : Tiles) : Tiles :=
  { tiles with
    grid := tiles.grid.map (·.map (substitute table))
    blocks := tiles.blocks.mapValues fun _ block => substituteBlock table block }

def substituteDocument (table : ConstantTable) (document : Document) : Document :=
  let final := finalTable table document
  { document with
    info := { document.info with
      name := substitute table document.info.name
      description := resolvedDescription table document
      labels := document.info.labels.map (·.map (substitute final)) }
    tiles := substituteTiles final document.tiles }

end Blueprint.Template
