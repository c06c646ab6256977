import Blueprint.Build
import Blueprint.Event

/-!
Building with a report on the progress. What a step reports is kept when a later one fails.
-/

namespace Blueprint

/-- The outcome of a step that reports its progress. -/
structure Traced (ε α : Type) where
  events : List Event
  result : Except ε α

namespace Traced

variable {ε φ α β : Type}

/-- A step that reports nothing. -/
def quiet (result : Except ε α) : Traced ε α := ⟨[], result⟩

def report (events : List Event) : Traced ε Unit := ⟨events, .ok ()⟩

def andThen (step : Traced ε α) (next : α → Traced ε β) : Traced ε β :=
  match step.result with
  | .error problem => ⟨step.events, .error problem⟩
  | .ok value => ⟨step.events ++ (next value).events, (next value).result⟩

instance : Monad (Traced ε) where
  pure value := quiet (.ok value)
  bind := andThen

def mapError (f : ε → φ) (step : Traced ε α) : Traced φ α :=
  ⟨step.events, step.result.mapError f⟩

/-- Works through items in order, up to the first one that fails. -/
def each (f : α → Traced ε β) : List α → Traced ε (List β)
  | [] => pure []
  | item :: items => do
    let first ← f item
    let rest ← each f items
    pure (first :: rest)

def program (shop : Workshop) : Program → Traced ProgramError (List String)
  | .lines code => pure code
  | .path relative => do
    let path := Program.pathIn shop relative
    let content ← quiet (Program.readLines shop.files path)
    if Program.isSource relative then
      report [.compiling path.display]
      quiet (Program.compileFile shop path content)
    else
      report [.programRead path.display content.length]
      pure content

/-- The program that the configuration of a block names. -/
def programName? (block : BlockDecl) : Option String :=
  if block.links.isSome ∧ block.id ∈ Placement.powerBlocks then none
  else block.config.bind fun config =>
    if ConfigKind.ofName? config.kind = some .program then some config.value else none

def processor (context : Placement.Context) (cell : String) (links : List Link) (name : String) :
    Traced PlacementError BlockConfig :=
  match context.document.tiles.programs.get? name with
  | none => quiet (.error (.unknownProgram name))
  | some source => do
    let code ← (program context.shop source).mapError .program
    let bytes ← quiet ((context.codec.pack links code).mapError (.codec cell))
    pure (.bytes bytes)

def config (context : Placement.Context) (cell : String) (block : BlockDecl) (x y : Nat) :
    Traced PlacementError BlockConfig :=
  match programName? block with
  | some name =>
    processor context cell (Placement.linksOf block context.document.tiles.grid x y) name
  | none => quiet (Placement.config context cell block x y)

def tile (context : Placement.Context) (cell : String) (x y : Nat) : Traced PlacementError Tile :=
  match context.document.tiles.blocks.get? cell with
  | none => quiet (.error (.missingBlock cell))
  | some block =>
    if !context.catalog.hasBlock block.id then quiet (.error (.unknownBlock cell block.id))
    else do
      let config ← config context cell block x y
      report [.tileResolved cell block.id x y]
      pure ⟨block.id, x, y, config, block.rotation.getD 0⟩

def place (context : Placement.Context) (cell : String) (x y : Nat) :
    Traced PlacementError (Option Tile) :=
  if cell = "" then pure none else do pure (some (← tile context cell x y))

def grid (context : Placement.Context) : Traced PlacementError (List (List (Option Tile))) :=
  let tiles := context.document.tiles
  each (fun cells => each (fun cell => place context cell.1 cell.2 (tiles.height - cells.2 - 1))
    cells.1.zipIdx) tiles.grid.zipIdx

def assemble (context : Placement.Context) : Traced BuildError Schematic := do
  let document := context.document
  if Build.hasDuplicateLabels document.info then quiet (.error .duplicateLabels)
  else
    let grid ← (grid context).mapError .placement
    let schematic : Schematic :=
      .ofGrid document.tiles.height document.tiles.width (Build.tags document.info) grid
    report [.assembled schematic.width schematic.height schematic.tiles.length]
    pure schematic

def build (settings : Settings) (text : String) : Traced BuildError Schematic := do
  let document ← quiet (Build.readDocument settings text)
  let table := Build.constants settings document
  report (.tableBuilt table.size :: Event.ofDocument table document)
  assemble (Build.context settings document)

end Traced

end Blueprint
