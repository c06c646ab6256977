import Blueprint.Json.Value

/-!
The versions of the schema language: where they differ, and for every keyword what its value has
to be. A schema names its version by an address.
-/

namespace Blueprint.Schema

/-- What the value of a keyword has to be. -/
inductive Shape where
  | text
  /-- Text that is a reference. -/
  | reference
  | number
  /-- The name of a kind, or a list of different ones. -/
  | kinds
  /-- A list of different texts. -/
  | keys (nonempty : Bool)
  | values
  /-- A list of different values. -/
  | distinctValues
  | schema
  | schemaOrFlag
  /-- A list of schemas with at least one of them. -/
  | schemas
  | schemaOrSchemas
  /-- An object whose members are schemas. -/
  | table
  deriving DecidableEq, Repr

structure Version where
  /-- The scheme of the address. -/
  scheme : String
  /-- The name of the draft in the address. -/
  draft : String
  /-- Whether `true` and `false` are schemas. -/
  flags : Bool
  /-- Whether the keywords beside a reference are ignored. -/
  loneReferences : Bool
  /-- Whether a number written with a point is never an integer. -/
  exactIntegers : Bool
  /-- The keywords in the order in which their values are examined. -/
  keywords : List (String × Shape)
  deriving DecidableEq, Repr

namespace Version

def draft4 : Version where
  scheme := "http"
  draft := "draft-04"
  flags := false
  loneReferences := true
  exactIntegers := true
  keywords := [
    ("id", .text), ("$schema", .text), ("title", .text), ("description", .text),
    ("maximum", .number), ("minimum", .number), ("items", .schemaOrSchemas),
    ("required", .keys true), ("additionalProperties", .schemaOrFlag), ("definitions", .table),
    ("properties", .table), ("enum", .distinctValues), ("type", .kinds), ("oneOf", .schemas)]

def draft6 : Version where
  scheme := "http"
  draft := "draft-06"
  flags := true
  loneReferences := true
  exactIntegers := false
  keywords := [
    ("$id", .reference), ("$schema", .text), ("$ref", .reference), ("title", .text),
    ("description", .text), ("maximum", .number), ("minimum", .number),
    ("items", .schemaOrSchemas), ("required", .keys false), ("additionalProperties", .schema),
    ("definitions", .table), ("properties", .table), ("enum", .distinctValues), ("type", .kinds),
    ("oneOf", .schemas)]

def draft7 : Version where
  scheme := "http"
  draft := "draft-07"
  flags := true
  loneReferences := true
  exactIntegers := false
  keywords := [
    ("$id", .reference), ("$schema", .text), ("$ref", .reference), ("$comment", .text),
    ("title", .text), ("description", .text), ("maximum", .number), ("minimum", .number),
    ("items", .schemaOrSchemas), ("required", .keys false), ("additionalProperties", .schema),
    ("definitions", .table), ("properties", .table), ("enum", .values), ("type", .kinds),
    ("oneOf", .schemas)]

def draft2019 : Version where
  scheme := "https"
  draft := "draft/2019-09"
  flags := true
  loneReferences := false
  exactIntegers := false
  keywords := [
    ("$id", .text), ("$schema", .text), ("$ref", .text), ("$comment", .text), ("$defs", .table),
    ("items", .schemaOrSchemas), ("additionalProperties", .schema), ("properties", .table),
    ("oneOf", .schemas), ("maximum", .number), ("minimum", .number), ("required", .keys false),
    ("enum", .values), ("type", .kinds), ("title", .text), ("description", .text),
    ("definitions", .table)]

def draft2020 : Version where
  scheme := "https"
  draft := "draft/2020-12"
  flags := true
  loneReferences := false
  exactIntegers := false
  keywords := [
    ("$id", .text), ("$schema", .text), ("$ref", .text), ("$comment", .text), ("$defs", .table),
    ("items", .schema), ("additionalProperties", .schema), ("properties", .table),
    ("oneOf", .schemas), ("type", .kinds), ("enum", .values), ("maximum", .number),
    ("minimum", .number), ("required", .keys false), ("title", .text), ("description", .text),
    ("definitions", .table)]

def all : List Version := [draft4, draft6, draft7, draft2019, draft2020]

/-- The version of a schema that names none. -/
def latest : Version := draft2020

def address (version : Version) : String :=
  s!"{version.scheme}://json-schema.org/{version.draft}/schema"

/-- The address without the empty fragment at its end. -/
def trimAddress (address : String) : String :=
  .ofList (address.toList.reverse.dropWhile (· = '#')).reverse

end Version

end Blueprint.Schema
