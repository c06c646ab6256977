import Blueprint.Catalog.Bundled
import Blueprint.Document.Decode
import Blueprint.Document.Encode
import Blueprint.Document.SourceError
import Blueprint.Placement.Grid
import Blueprint.Schema.Bundled
import Blueprint.Schema.Validator
import Blueprint.Template.Document

/-!
Building a schematic from the text of a document. The stages follow each other, and the first one
that fails decides the error: reading, checking against the schema, typing, labels, placing.
-/

namespace Blueprint

/-- What a build depends on besides the document. -/
structure Settings where
  /-- The directory that program files are relative to. -/
  base : Path
  catalog : Catalog
  glyphs : Template.GlyphTable
  schema : Json
  validator : Validator
  compiler : Compiler
  codec : Codec
  files : FileTree

def Settings.standard : Settings where
  base := Path.here
  catalog := .bundled
  glyphs := .empty
  schema := Schema.bundledJson
  validator := .standard
  compiler := noCompiler
  codec := .standard
  files := .empty

/-- The settings on one line, with the parts that have a short form. -/
def Settings.describe (settings : Settings) : String :=
  let catalog := match settings.catalog.name with
    | none => "None"
    | some name => "Some(" ++ Text.quoted name ++ ")"
  "BuildConfig \x7b base_dir: " ++ Text.quotedBytes settings.base
    ++ ", catalog: " ++ catalog
    ++ s!", glyphs: {settings.glyphs.size}"
    ++ ", codec: " ++ Text.quoted settings.codec.fileExtension
    ++ ", .. \x7d"

inductive BuildError where
  | json (cause : SourceError)
  | badSchema (problem : String)
  | violation (finding : Finding)
  /-- A document that satisfies the schema has no typed form. -/
  | untyped (cause : DecodeError)
  | duplicateLabels
  | placement (cause : PlacementError)

namespace BuildError

def message : BuildError → String
  | json cause => s!"Schematic file contains invalid JSON: {cause.message}"
  | badSchema problem => s!"JSON schema is invalid: {problem}"
  | violation finding => finding.message
  | untyped cause =>
    s!"internal error: validated document did not deserialize: {cause.message}"
  | duplicateLabels =>
    "Schematic file can only have data.info.labels or data.info.tags.labels, not both"
  | placement cause => cause.message

/-- Whether the author of the document can mend it. -/
def isUserFacing : BuildError → Bool
  | badSchema _ => false
  | untyped _ => false
  | placement cause => cause.isUserFacing
  | _ => true

end BuildError

namespace Build

/-- Checks a value against a schema, which has to be one. -/
def validate (validator : Validator) (schema value : Json) : Except BuildError Unit := do
  let finding? ← (validator.compile schema).mapError .badSchema
  match finding? value with
  | some finding => .error (.violation finding)
  | none => .ok ()

/-- The typed document of a text, which satisfies the schema. -/
def readDocument (settings : Settings) (text : String) : Except BuildError Document := do
  let value ← (parseSource text).mapError .json
  validate settings.validator settings.schema value
  (Document.decode value).mapError .untyped

def constants (settings : Settings) (document : Document) : Template.ConstantTable :=
  .ofDocument document settings.glyphs

/-- The document after substitution, in the context that its blocks are placed in. -/
def context (settings : Settings) (document : Document) : Placement.Context :=
  let table := constants settings document
  { document := Template.substituteDocument table document
    catalog := settings.catalog
    shop := {
      files := settings.files
      base := settings.base
      compiler := settings.compiler
      constants := Template.finalTable table document }
    codec := settings.codec }

/-- Labels have one of two places. -/
def hasDuplicateLabels (info : Info) : Bool :=
  info.labels.isSome && info.tags.any (·.contains "labels")

/-- Name, description and labels, overridden and extended by the tags of the document. -/
def tags (info : Info) : OrderedMap String :=
  .ofList ([
    ("name", info.name),
    ("description", info.description.getD ""),
    ("labels", (Json.ofStrings (info.labels.getD [])).compact)]
    ++ (info.tags.map OrderedMap.entries).getD [])

def assemble (context : Placement.Context) : Except BuildError Schematic := do
  let document := context.document
  if hasDuplicateLabels document.info then .error .duplicateLabels
  else
    let grid ← (Placement.grid context).mapError .placement
    .ok (.ofGrid document.tiles.height document.tiles.width (tags document.info) grid)

end Build

def build (settings : Settings) (text : String) : Except BuildError Schematic := do
  let document ← Build.readDocument settings text
  Build.assemble (Build.context settings document)

end Blueprint
