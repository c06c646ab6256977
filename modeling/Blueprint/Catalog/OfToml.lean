import Blueprint.Catalog.Bundled
import Blueprint.FileTree
import Blueprint.Toml.Reader
import Blueprint.Text.Integer

/-!
Reading catalogs. A catalog file has a table of names and ids for each kind of content, and a name
of its own.
-/

namespace Blueprint

inductive CatalogError where
  | unreadable (cause : FileError)
  | malformed
  deriving DecidableEq, Repr

def CatalogError.message : CatalogError → String
  | unreadable cause => s!"Failed to read catalog file: {cause.message}"
  | malformed => "Failed to parse catalog TOML"

namespace Catalog

open Toml (Value)

def id? : Value → Option UInt16
  | .integer n => if 0 ≤ n ∧ n < Word.count 16 then some (.ofNat n.toNat) else none
  | _ => none

/-- The ids of one kind of content. -/
def ids? (entries : List (String × Value)) (key : String) : Option (OrderedMap UInt16) :=
  match entries.lookup key with
  | none => some .empty
  | some (.table ids) => do
    some (OrderedMap.ofList (← ids.mapM fun (name, value) => (id? value).map (name, ·)))
  | some _ => none

def text? : Value → Option String
  | .string text => some text
  | _ => none

/-- The name of the catalog, which may be left out. Its table may be written as the list of its
only field, and a date counts as a table without entries. -/
def name? (entries : List (String × Value)) : Option (Option String) :=
  match entries.lookup "metadata" with
  | none => some none
  | some (.table fields) =>
    match fields.lookup "name" with
    | none => some none
    | some value => (text? value).map some
  | some (.array (first :: _)) => (text? first).map some
  | some .datetime => some none
  | some _ => none

def ofEntries? (entries : List (String × Value)) : Option Catalog := do
  let name ← name? entries
  let items ← ids? entries "items"
  let blocks ← ids? entries "blocks"
  let liquids ← ids? entries "liquids"
  let units ← ids? entries "units"
  some ⟨name, items, blocks, liquids, units⟩

def ofToml (text : String) : Except CatalogError Catalog :=
  match Toml.read text with
  | .error _ => .error .malformed
  | .ok entries =>
    match ofEntries? entries with
    | some catalog => .ok catalog
    | none => .error .malformed

def load (files : FileTree) (path : Path) : Except CatalogError Catalog := do
  ofToml (← (files.readText path).mapError .unreadable)

/-- Where a catalog is written. -/
inductive Source where
  | text (content : String)
  | file (path : Path)
  deriving DecidableEq, Repr

def Source.read (files : FileTree) : Source → Except CatalogError Catalog
  | text content => ofToml content
  | file path => load files path

/-- Extends the present catalog by one that is read. -/
def extendFrom (files : FileTree) (source : Source) :
    ExceptT CatalogError (StateM Catalog) Unit := do
  let other ← source.read files
  modify fun catalog => catalog.extend other

/-- The bundled catalog extended by a file. -/
def loadExtension (files : FileTree) (path : Path) : Except CatalogError Catalog := do
  .ok (bundled.extend (← load files path))

end Catalog

end Blueprint
