import Blueprint.Document.Basic
import Blueprint.Json.Value

/-!
The JSON form of a document. What is absent is left out; programs and constants are always written.
-/

namespace Blueprint

/-- A member for a value that is there. -/
def Json.present (key : String) (encode : α → Json) : Option α → List (String × Json)
  | none => []
  | some value => [(key, encode value)]

theorem Json.forall_mem_present {p : String × Json → Prop} {key : String} {encode : α → Json}
    {option : Option α} :
    (∀ member ∈ Json.present key encode option, p member) ↔
      ∀ value, option = some value → p (key, encode value) := by
  cases option <;> simp [Json.present]

def OrderedMap.encode (value : V → Json) (map : OrderedMap V) : Json :=
  .object (map.entries.map fun entry => (entry.1, value entry.2))

def Constant.encode : Constant → Json
  | .text value => .string value
  | .list items => .ofStrings items

def Program.encode : Program → Json
  | .lines code => .ofStrings code
  | .path relative => .string relative

def ConfigDecl.encode (config : ConfigDecl) : Json :=
  .object [("type", .string config.kind), ("value", .string config.value)]

def BlockDecl.encode (block : BlockDecl) : Json :=
  .object ([("id", .string block.id)]
    ++ Json.present "links" Json.ofStrings block.links
    ++ Json.present "config" ConfigDecl.encode block.config
    ++ Json.present "rotation" (fun quarter => Json.ofNat quarter.toNat) block.rotation)

def Info.encode (info : Info) : Json :=
  .object ([("name", .string info.name)]
    ++ Json.present "description" Json.string info.description
    ++ Json.present "labels" Json.ofStrings info.labels
    ++ [("authors", .ofStrings info.authors), ("version", .string info.version)]
    ++ Json.present "tags" (OrderedMap.encode Json.string) info.tags)

def Tiles.encode (tiles : Tiles) : Json :=
  .object [
    ("grid", .array (tiles.grid.map Json.ofStrings)),
    ("blocks", tiles.blocks.encode BlockDecl.encode),
    ("programs", tiles.programs.encode Program.encode)]

def Document.encode (document : Document) : Json :=
  .object [
    ("info", document.info.encode),
    ("tiles", document.tiles.encode),
    ("consts", document.consts.encode Constant.encode)]

end Blueprint
