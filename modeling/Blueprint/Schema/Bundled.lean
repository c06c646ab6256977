import Blueprint.Schema.OfJson

/-!
The schema of source documents.
-/

namespace Blueprint.Schema

def ofKind (kind : Kind) : Json := .object [("type", .string kind.name)]

def listOf (item : Json) : Json := .object [("type", .string "array"), ("items", item)]

def text : Json := ofKind .string

def texts : Json := listOf text

def mapOf (value : Json) : Json :=
  .object [("type", .string "object"), ("additionalProperties", value)]

/-- An object with the given members and no others. -/
def record (required : List String) (members : List (String × Json)) : Json :=
  .object [
    ("type", .string "object"),
    ("required", .ofStrings required),
    ("properties", .object members),
    ("additionalProperties", .bool false)]

def textOrTexts : Json := .object [("oneOf", .array [text, texts])]

def configNames : List String :=
  ["item", "liquid", "unit", "block", "boolean", "point", "string", "program"]

def blockSchema : Json :=
  record ["id"] [
    ("id", text),
    ("links", texts),
    ("config", record ["type", "value"] [
      ("type", .object [("type", .string "string"), ("enum", .ofStrings configNames)]),
      ("value", text)]),
    ("rotation", .object [
      ("type", .string "integer"), ("minimum", .ofNat 0), ("maximum", .ofNat 3)])]

def infoSchema : Json :=
  record ["name", "authors", "version"] [
    ("name", text),
    ("description", text),
    ("labels", texts),
    ("authors", texts),
    ("version", text),
    ("tags", mapOf text)]

def tilesSchema : Json :=
  record ["grid", "blocks"] [
    ("grid", listOf texts),
    ("blocks", mapOf (.object [("$ref", .string "#/definitions/block")])),
    ("programs", mapOf textOrTexts)]

def bundledJson : Json :=
  .object [
    ("$schema", .string "http://json-schema.org/draft-07/schema#"),
    ("title", .string "Schematic source document"),
    ("type", .string "object"),
    ("required", .ofStrings ["info", "tiles"]),
    ("properties", .object [
      ("$schema", text),
      ("info", infoSchema),
      ("tiles", tilesSchema),
      ("consts", mapOf textOrTexts)]),
    ("additionalProperties", .bool false),
    ("definitions", .object [("block", blockSchema)])]

end Blueprint.Schema
