import Blueprint.CommandLine.Run

/-!
The files that a command looks at: those that it names, and those that its document names.
-/

namespace Blueprint.CommandLine

def Command.paths : Command → List Path
  | .build request =>
    [request.input, outputOf request]
      ++ [request.schema, request.glyphs, request.catalog].filterMap id
  | .init request => [request.output]

/-- The paths of the programs of a document. -/
def programPaths (document : Document) : List String :=
  document.tiles.programs.entries.filterMap fun (_, program) =>
    match program with
    | .path relative => some relative
    | .lines _ => none

/-- The document of a build in the given files, if it can be read. -/
def documentOf? (files : FileTree) (request : BuildRequest) : Option Document :=
  match readSource files request.input with
  | .error _ => none
  | .ok text =>
    match Json.read text with
    | .error _ => none
    | .ok value => (Document.decode value).toOption

/-- The program files of a build, as seen from the working folder. -/
def Command.programPaths (files : FileTree) : Command → List Path
  | .build request =>
    let paths := ((documentOf? files request).map CommandLine.programPaths).getD []
    paths.map fun relative => Path.join (baseOf request.input) (Text.utf8 relative)
  | .init _ => []

end Blueprint.CommandLine
