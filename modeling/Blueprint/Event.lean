import Blueprint.Template.Document

/-!
What a build reports about its progress.
-/

namespace Blueprint

inductive Severity where
  | debug | info | warning
  deriving DecidableEq, Repr

def Severity.name : Severity → String
  | debug => "DEBUG"
  | info => "INFO"
  | warning => "WARN"

/-- Higher ranks are more severe. -/
def Severity.rank : Severity → Nat
  | debug => 0
  | info => 1
  | warning => 2

inductive Event where
  | unknownConstant (key : String)
  | tableBuilt (constants : Nat)
  | blockSubstituted (name id : String)
  | tileResolved (cell block : String) (x y : Nat)
  | compiling (path : String)
  | programRead (path : String) (lines : Nat)
  | assembled (width height tiles : Nat)
  | wrote (path : String)
  deriving DecidableEq, Repr

namespace Event

def severity : Event → Severity
  | unknownConstant _ => .warning
  | compiling _ => .info
  | wrote _ => .info
  | _ => .debug

def message : Event → String
  | unknownConstant key => s!"Unknown compiler const {key} key={key}"
  | tableBuilt constants => s!"built constant table constants={constants}"
  | blockSubstituted name id => s!"substituted block declaration block={name} id={id}"
  | tileResolved cell block x y => s!"resolved tile cell={cell} block={block} x={x} y={y}"
  | compiling path => s!"Compiling program {path}"
  | programRead path lines => s!"read program file path={path} lines={lines}"
  | assembled width height tiles =>
    s!"assembled schematic width={width} height={height} tiles={tiles}"
  | wrote path => s!"Wrote {path}"

def line (event : Event) : String := event.severity.name ++ " " ++ event.message

/-- What substituting in a text reports. -/
def ofText (table : Template.ConstantTable) (text : String) : List Event :=
  (Template.unknownReferences table text.toList).map unknownConstant

def ofBlock (table : Template.ConstantTable) (name : String) (block : BlockDecl) : List Event :=
  ofText table block.id
    ++ (block.config.map (ofText table ·.value)).getD []
    ++ [blockSubstituted name (Template.substitute table block.id)]

/-- What substituting throughout a document reports. -/
def ofDocument (table : Template.ConstantTable) (document : Document) : List Event :=
  let final := Template.finalTable table document
  let description := (document.info.description.filter (· ≠ "")).toList
  ofText table document.info.name
    ++ description.flatMap (ofText (Template.tableWithName table document))
    ++ (document.info.labels.getD []).flatMap (ofText final)
    ++ document.tiles.grid.flatten.flatMap (ofText final)
    ++ document.tiles.blocks.entries.flatMap fun (name, block) => ofBlock final name block

end Event

end Blueprint
