import Blueprint.OrderedMap

/-!
Catalogs: the numeric ids of content by kind and name.
-/

namespace Blueprint

inductive ContentKind where
  | item | block | liquid | unit
  deriving DecidableEq, Repr

def ContentKind.name : ContentKind → String
  | .item => "item"
  | .block => "block"
  | .liquid => "liquid"
  | .unit => "unit"

def ContentKind.all : List ContentKind := [.item, .block, .liquid, .unit]

def ContentKind.ofName? (name : String) : Option ContentKind :=
  ContentKind.all.find? (·.name = name)

/-- The number that a schematic stores for the kind. -/
def ContentKind.typeId : ContentKind → Nat
  | .item => 0
  | .block => 1
  | .liquid => 4
  | .unit => 6

structure Catalog where
  name : Option String
  items : OrderedMap UInt16
  blocks : OrderedMap UInt16
  liquids : OrderedMap UInt16
  units : OrderedMap UInt16
  deriving DecidableEq

namespace Catalog

def table (catalog : Catalog) : ContentKind → OrderedMap UInt16
  | .item => catalog.items
  | .block => catalog.blocks
  | .liquid => catalog.liquids
  | .unit => catalog.units

def lookup (catalog : Catalog) (kind : ContentKind) (name : String) : Option UInt16 :=
  (catalog.table kind).get? name

def hasBlock (catalog : Catalog) (id : String) : Bool := catalog.blocks.contains id

/-- Adds the entries of another catalog, which win over present ones, as does its name. -/
def extend (catalog other : Catalog) : Catalog where
  name := other.name.or catalog.name
  items := catalog.items.insertAll other.items.entries
  blocks := catalog.blocks.insertAll other.blocks.entries
  liquids := catalog.liquids.insertAll other.liquids.entries
  units := catalog.units.insertAll other.units.entries

end Catalog

end Blueprint
