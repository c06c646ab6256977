import Blueprint.Catalog.OfToml
import Blueprint.CommandLine.Request
import Blueprint.Document.Starter
import Blueprint.Report
import Blueprint.Trace

/-!
Running a command on the files of a directory.
-/

namespace Blueprint.CommandLine

/-- What a run leaves behind: an exit code, what it prints, and the files. -/
structure Outcome where
  code : Nat
  output : String
  problems : String
  events : List Event
  files : FileTree

/-- A run that failed before it wrote anything. -/
def Outcome.failed (files : FileTree) (output problems : String) (events : List Event) : Outcome :=
  ⟨1, output, problems, events, files⟩

/-- A defect with its causes, each with its parts. The standard codec fails for numbers only. -/
def inspect : BuildError → String
  | .badSchema problem => "Schema(InvalidSchema(" ++ Text.quoted problem ++ "))"
  | .untyped cause =>
    "Internal(" ++ Text.quoted s!"validated document did not deserialize: {cause.message}" ++ ")"
  | .placement (.codec cell (.outOfRange what value)) =>
    "Resolve(Codec \x7b name: " ++ Text.quoted cell ++ ", source: OutOfRange \x7b what: "
      ++ Text.quoted what ++ s!", value: {value} \x7d \x7d)"
  | error => error.message

/-- What is printed for a failed build. -/
def explain (error : BuildError) (source : String) (input : Path) : String :=
  let excerpt := match error with
    | .json cause => Report.render cause source input.display
    | _ => ""
  let text := if error.isUserFacing then error.message else inspect error
  excerpt ++ "Error: " ++ text ++ "\nBuild failed.\n"

/-- The directory of the document, which program files are relative to. -/
def baseOf (input : Path) : Path :=
  match input.parent? with
  | none => Path.here
  | some parent => if parent = [] then Path.here else parent

def documentExtension : String := ".json"

/-- A final `.json` of the document's name gives way to the extension of schematics. -/
def outputName (name : String) : String :=
  let chars := name.toList
  let stem :=
    if documentExtension.toList.isSuffixOf chars then
      chars.take (chars.length - documentExtension.length)
    else chars
  .ofList stem ++ "." ++ Schematic.fileExtension

/-- A name that is no text is read as far as possible. -/
def defaultOutput (input : Path) : Path :=
  input.withFileName (Text.utf8 (outputName (Text.shown (input.fileName?.getD []))))

/-- The file that a build writes. -/
def outputOf (request : BuildRequest) : Path :=
  request.output.getD (defaultOutput request.input)

/-- Applies an option that may be absent. -/
def withOption (path : Option Path) (load : Path → Except String α) (default : α) :
    Except String α :=
  match path with
  | none => .ok default
  | some path => load path

def loadSchema (files : FileTree) (path : Path) : Except String Json := do
  let content ← (files.readText path).mapError fun cause =>
    s!"Error loading schema '{path.display}': {cause.message}"
  (Json.read content).mapError fun cause =>
    s!"Error loading schema '{path.display}': {cause.message}"

def loadGlyphs (files : FileTree) (path : Path) : Except String Template.GlyphTable :=
  (Template.GlyphTable.load files path).mapError fun cause =>
    s!"Error loading glyphs: {cause.message}"

def loadCatalog (files : FileTree) (path : Path) : Except String Catalog :=
  (Catalog.loadExtension files path).mapError fun cause =>
    s!"Error loading catalog '{path.display}': {cause.message}"

def readSource (files : FileTree) (path : Path) : Except String String :=
  (files.readText path).mapError fun cause => s!"Error reading file '{path.display}': {cause.message}"

/-- The settings that the options ask for. -/
def settings (validator : Validator) (files : FileTree) (request : BuildRequest) :
    Except String Settings := do
  let standard := Settings.standard
  let schema ← withOption request.schema (loadSchema files) standard.schema
  let glyphs ← withOption request.glyphs (loadGlyphs files) standard.glyphs
  let catalog ← withOption request.catalog (loadCatalog files) standard.catalog
  .ok { standard with base := baseOf request.input, schema, validator, glyphs, catalog, files }

/-- The text of the document and the settings to build it with. -/
def prepare (validator : Validator) (files : FileTree) (request : BuildRequest) :
    Except String (String × Settings) := do
  let source ← readSource files request.input
  .ok (source, ← settings validator files request)

def writeProblem (path : Path) (cause : FileError) : String :=
  s!"Error writing '{path.display}': {cause.message}\n"

/-- Prints the summary of a schematic and writes its file. -/
def finishBuild (files : FileTree) (request : BuildRequest) (events : List Event)
    (schematic : Schematic) : Outcome :=
  let path := outputOf request
  match files.write path (schematic.fileText .indented) with
  | .ok written =>
    ⟨0, schematic.summary, "", events ++ [.wrote path.display], written⟩
  | .error cause => .failed files schematic.summary (writeProblem path cause) events

def runBuild (validator : Validator) (files : FileTree) (request : BuildRequest) : Outcome :=
  match prepare validator files request with
  | .error problem => .failed files "" (problem ++ "\n") []
  | .ok (source, settings) =>
    let built := Traced.build settings source
    match built.result with
    | .error error => .failed files "" (explain error source request.input) built.events
    | .ok schematic => finishBuild files request built.events schematic

def starterText (request : InitRequest) : String :=
  (Starter.document request.name request.description request.authors).indented ++ "\n"

def runInit (files : FileTree) (request : InitRequest) : Outcome :=
  match files.write request.output (starterText request) with
  | .ok written => ⟨0, s!"Created {request.output.display}\n", "", [], written⟩
  | .error cause => .failed files "" (writeProblem request.output cause) []

def usage : String :=
  "Compile JSON schematic source documents\n\n"
    ++ "Usage: [OPTIONS] build [-o PATH] [--schema PATH] [--glyphs PATH] [--catalog PATH] INPUT\n"
    ++ "       [OPTIONS] init --name NAME [--description TEXT] [--authors NAMES] OUTPUT\n\n"
    ++ "Options:\n"
    ++ "  -v, --verbose  Log debug output\n"
    ++ "  -q, --quiet    Only log warnings and errors\n"
    ++ "  -h, --help     Print help\n"

def runCommand (validator : Validator) (files : FileTree) : Command → Outcome
  | .build request => runBuild validator files request
  | .init request => runInit files request

/-- The least severe events that are shown. -/
def Verbosity.threshold : Verbosity → Severity
  | .quiet => .warning
  | .normal => .info
  | .verbose => .debug

def Verbosity.shows (verbosity : Verbosity) (event : Event) : Bool :=
  verbosity.threshold.rank ≤ event.severity.rank

def runRequest (validator : Validator) (files : FileTree) (request : Request) : Outcome :=
  let outcome := runCommand validator files request.command
  { outcome with events := outcome.events.filter request.verbosity.shows }

/-- A request for help is answered, and a wrong command line is refused with code 2. -/
def run (validator : Validator) (files : FileTree) (arguments : List Raw) : Outcome :=
  match readRequest arguments with
  | .error .help => ⟨0, usage, "", [], files⟩
  | .error (.usage error) => ⟨2, "", s!"error: {error.message}\n\n{usage}", [], files⟩
  | .ok request => runRequest validator files request

end Blueprint.CommandLine
