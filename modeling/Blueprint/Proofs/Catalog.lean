import Blueprint.Catalog.OfToml
import Blueprint.Proofs.OrderedMap.Entries
import Mathlib.Data.List.Induction

/-!
Catalogs that extend one another, and the blocks of the bundled one. In a run of extensions the last
catalog that says anything about a name decides, for each kind of content on its own; what cannot be
read takes no part in the run.
-/

namespace Blueprint.Catalog

/-! ### The blocks of the bundled catalog, without building its map -/

theorem mem_keys_numbered {names : List String} {name : String} :
    name ∈ (numbered names).keys ↔ name ∈ names := by
  rw [numbered, OrderedMap.ofList, OrderedMap.mem_keys_insertAll, List.map_map]
  change name ∈ names.zipIdx.map Prod.fst ∨ name ∈ [] ↔ name ∈ names
  rw [List.zipIdx_map_fst, or_iff_left List.not_mem_nil]

theorem hasBlock_bundled_iff {id : String} : bundled.hasBlock id = true ↔ id ∈ blockNames :=
  OrderedMap.contains_iff_mem_keys.trans mem_keys_numbered

theorem bundled_has_router_and_power_node :
    bundled.hasBlock "router" = true ∧ bundled.hasBlock "power-node" = true := by
  rw [hasBlock_bundled_iff, hasBlock_bundled_iff]
  decide +kernel

variable {catalog other : Catalog} {kind : ContentKind} {name : String} {α : Type}

/-! ### One extension -/

theorem table_extend (catalog other : Catalog) (kind : ContentKind) :
    (catalog.extend other).table kind =
      (catalog.table kind).insertAll (other.table kind).entries := by
  cases kind <;> rfl

theorem lookup_extend (catalog other : Catalog) (kind : ContentKind) (name : String) :
    (catalog.extend other).lookup kind name =
      (other.lookup kind name).or (catalog.lookup kind name) := by
  simp only [lookup, table_extend, OrderedMap.get?_insertAll_entries]

/-- Two catalogs that know the same about one kind of content. -/
def AgreeOn (kind : ContentKind) (catalog other : Catalog) : Prop :=
  ∀ name, catalog.lookup kind name = other.lookup kind name

theorem AgreeOn.extend {first second : Catalog} (agree : AgreeOn kind catalog other)
    (extensions : AgreeOn kind first second) :
    AgreeOn kind (catalog.extend first) (other.extend second) := by
  intro name
  rw [lookup_extend, lookup_extend, agree name, extensions name]

theorem AgreeOn.foldl {base start : Catalog} {catalogs others : List Catalog}
    (agree : AgreeOn kind base start) (extensions : List.Forall₂ (AgreeOn kind) catalogs others) :
    AgreeOn kind (catalogs.foldl Catalog.extend base) (others.foldl Catalog.extend start) := by
  induction extensions generalizing base start with
  | nil => exact agree
  | cons here _ ih => exact ih (agree.extend here)

/-! ### Catalogs that are read -/

variable {files : FileTree} {source : Source}

end Blueprint.Catalog
