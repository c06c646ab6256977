import Blueprint.Document.Encode
import Blueprint.Json.Writer
import Blueprint.Schematic.Base64
import Blueprint.Schematic.Basic
import Blueprint.Text.Quoted

/-!
The written forms of a schematic: its JSON encoding and a short summary.
-/

namespace Blueprint

def Point.encode (point : Point) : Json :=
  .object [("x", .number (.integer point.x.toInt)), ("y", .number (.integer point.y.toInt))]

def BlockConfig.typeName : BlockConfig → String
  | null => "null"
  | content .. => "content"
  | boolean _ => "boolean"
  | point _ => "point"
  | pointArray _ => "point_array"
  | string _ => "string"
  | bytes _ => "bytes"

def BlockConfig.payload? : BlockConfig → Option Json
  | null => none
  | content kind id => some (.object [
      ("kind", .string kind.name), ("type_id", .ofNat kind.typeId), ("id", .ofNat id.toNat)])
  | boolean value => some (.bool value)
  | point value => some value.encode
  | pointArray points => some (.array (points.map Point.encode))
  | string value => some (.string value)
  | bytes data => some (.string (.ofList (Base64.encode data)))

def BlockConfig.encode (config : BlockConfig) : Json :=
  .object (("type", .string config.typeName) :: Json.present "value" id config.payload?)

def Tile.encode (tile : Tile) : Json :=
  .object [
    ("block", .string tile.block),
    ("x", .ofNat tile.x),
    ("y", .ofNat tile.y),
    ("config", tile.config.encode),
    ("rotation", .ofNat tile.rotation.toNat)]

namespace Schematic

def encode (schematic : Schematic) : Json :=
  .object [
    ("height", .ofNat schematic.height),
    ("width", .ofNat schematic.width),
    ("version", .ofNat schematic.version.toNat),
    ("tags", schematic.tags.encode Json.string),
    ("labels", .ofStrings schematic.labels),
    ("tiles", .array (schematic.tiles.map Tile.encode))]

/-- The content of a schematic file. -/
def fileText (layout : Json.Layout) (schematic : Schematic) : String :=
  .ofList (Json.write layout 0 schematic.encode ++ ['\n'])

def fileExtension : String := "msch.json"

/-- The name, the size, and every other tag on a line of its own. -/
def summary (schematic : Schematic) : String :=
  let others := schematic.tags.entries.filter fun entry => entry.1 ≠ "name"
  let name := schematic.name?.getD "<unnamed>"
  s!"Schematic \"{name}\"\n"
    ++ s!"  size: {schematic.width}x{schematic.height}\n"
    ++ s!"  tiles: {schematic.tiles.length}\n"
    ++ .join (others.map fun (key, value) => s!"  {key}: {Text.visible value}\n")

end Schematic

end Blueprint
