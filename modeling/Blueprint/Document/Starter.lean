import Blueprint.Json.Value
import Blueprint.Text.Split

/-!
The document that a new schematic starts from: one router.
-/

namespace Blueprint.Starter

def schemaAddress : String :=
  "https://raw.githubusercontent.com/BalaM314/msch-generate/main/docs/msch-v1.schema.json"

def standardDescription : String :=
  "No description provided.\nGenerated with https://github.com/BalaM314/msch-generate"

def standardAuthors : String := "Unknown"

def dropSpace : List Char → List Char
  | ' ' :: rest => rest
  | name => name

/-- Authors are separated by commas, each of which may be followed by one space. -/
def authorList (text : String) : List String :=
  (Text.split ',' text.toList).map fun name => .ofList (dropSpace name)

def document (name : String) (description authors : Option String) : Json :=
  .object [
    ("$schema", .string schemaAddress),
    ("info", .object [
      ("name", .string name),
      ("description", .string (description.getD standardDescription)),
      ("authors", .ofStrings (authorList (authors.getD standardAuthors))),
      ("version", .string "1.0.0")]),
    ("tiles", .object [
      ("grid", .array [.ofStrings ["holyBlock"]]),
      ("blocks", .object [("holyBlock", .object [("id", .string "router")])]),
      ("programs", .object [])]),
    ("consts", .object [])]

end Blueprint.Starter
