import Blueprint.Placement.Links
import Blueprint.Program
import Blueprint.Schematic.Codec
import Blueprint.Text.Integer
import Blueprint.Text.Split

/-!
The configuration of a placed block.
-/

namespace Blueprint

inductive PlacementError where
  /-- A cell names a block that is not declared. -/
  | missingBlock (cell : String)
  | unknownBlock (cell id : String)
  | unknownContent (kind : ContentKind) (value : String)
  | invalidPoint (value : String)
  | unknownProgram (name : String)
  | unsupportedKind (kind : String)
  | program (cause : ProgramError)
  /-- The codec refuses the processor of a cell. -/
  | codec (cell : String) (cause : CodecError)
  deriving DecidableEq, Repr

namespace PlacementError

def message : PlacementError → String
  | missingBlock cell => s!"Missing configuration data for block \"{cell}\"."
  | unknownBlock cell id => s!"Unknown block id \"{id}\" (declared by \"{cell}\")"
  | unknownContent kind value => s!"Unknown {kind.name} \"{value}\""
  | invalidPoint value => s!"Invalid point config \"{value}\", should be of the form \"5,6\""
  | unknownProgram name => s!"Unknown program \"{name}\""
  | unsupportedKind kind => s!"Invalid config type \"{kind}\""
  | program cause => cause.message
  | codec cell cause => s!"failed to encode program for block \"{cell}\": {cause.message}"

/-- Whether the author of the document can mend it. -/
def isUserFacing : PlacementError → Bool
  | codec _ _ => false
  | _ => true

end PlacementError

namespace Placement

/-- Everything that placing blocks depends on. -/
structure Context where
  document : Document
  catalog : Catalog
  shop : Workshop
  codec : Codec

/-- The blocks whose links are power connections, which take the place of a configuration. -/
def powerBlocks : List String := ["power-node", "power-node-large", "power-source", "surge-tower"]

def content (catalog : Catalog) (kind : ContentKind) (value : String) :
    Except PlacementError BlockConfig :=
  match catalog.lookup kind value with
  | some id => .ok (.content kind id)
  | none => .error (.unknownContent kind value)

/-- A signed number in a word of 32 bits, between blanks. -/
def coordinate? (field : List Char) : Option Int32 :=
  match Text.integer? (Text.trim field) with
  | some n => if Word.isSigned 32 n then some (.ofInt n) else none
  | none => none

/-- Two coordinates with a comma between them. -/
def point? (value : String) : Option Point :=
  match Text.split ',' value.toList with
  | [x, y] => do some ⟨← coordinate? x, ← coordinate? y⟩
  | _ => none

def point (value : String) : Except PlacementError BlockConfig :=
  match point? value with
  | some place => .ok (.point place)
  | none => .error (.invalidPoint value)

/-- The bytes of a program with the links of its processor. -/
def program (context : Context) (cell : String) (links : List Link) (name : String) :
    Except PlacementError BlockConfig :=
  match context.document.tiles.programs.get? name with
  | none => .error (.unknownProgram name)
  | some source => do
    let code ← (source.load context.shop).mapError .program
    let bytes ← (context.codec.pack links code).mapError (.codec cell)
    .ok (.bytes bytes)

/-- What a declared configuration of some kind means. -/
def declared (context : Context) (cell : String) (links : List Link) (kind : ConfigKind)
    (value : String) : Except PlacementError BlockConfig :=
  match kind with
  | .item => content context.catalog .item value
  | .liquid => content context.catalog .liquid value
  | .unit => content context.catalog .unit value
  | .block => content context.catalog .block value
  | .boolean => .ok (.boolean (value ≠ "false"))
  | .point => point value
  | .string => .ok (.string value)
  | .program => program context cell links value

/-- The configuration of the block of a cell at a position. -/
def config (context : Context) (cell : String) (block : BlockDecl) (x y : Nat) :
    Except PlacementError BlockConfig :=
  let links := linksOf block context.document.tiles.grid x y
  if block.links.isSome ∧ block.id ∈ powerBlocks then .ok (.pointArray (links.map (·.offset)))
  else match block.config with
    | none => .ok .null
    | some config =>
      match ConfigKind.ofName? config.kind with
      | none => .error (.unsupportedKind config.kind)
      | some kind => declared context cell links kind config.value

end Placement

end Blueprint
