/-!
Maps from names to values that list their entries in the order in which the names first came.
-/

namespace Blueprint

structure OrderedMap (V : Type) where
  entries : List (String × V)
  distinct : (entries.map Prod.fst).Nodup
  deriving DecidableEq

namespace OrderedMap

variable {V W : Type}

/-- Replaces the value where the key stands, or adds the entry at the end. -/
def put (key : String) (value : V) : List (String × V) → List (String × V)
  | [] => [(key, value)]
  | (k, v) :: rest => if k = key then (k, value) :: rest else (k, v) :: put key value rest

theorem keys_put (key : String) (value : V) (entries : List (String × V)) :
    (put key value entries).map Prod.fst =
      if key ∈ entries.map Prod.fst then entries.map Prod.fst
      else entries.map Prod.fst ++ [key] := by
  induction entries with
  | nil => rfl
  | cons entry rest ih =>
    by_cases same : entry.1 = key
    · simp [put, same]
    · simp only [put, same, if_false, List.map_cons, ih, List.mem_cons]
      have other : key ≠ entry.1 := fun h => same h.symm
      simp only [other, false_or]
      split <;> simp

theorem nodup_keys_put (key : String) (value : V) {entries : List (String × V)}
    (distinct : (entries.map Prod.fst).Nodup) : ((put key value entries).map Prod.fst).Nodup := by
  rw [keys_put]
  split
  · exact distinct
  · next absent =>
    rw [List.nodup_append]
    exact ⟨distinct, by simp, fun a member b single => by
      simp only [List.mem_singleton] at single
      exact fun same => absent (by rw [← single, ← same]; exact member)⟩

/-- As `put`, and gives the value that the key had before. -/
def exchange (key : String) (value : V) : List (String × V) → Option V × List (String × V)
  | [] => (none, [(key, value)])
  | (k, v) :: rest =>
    if k = key then (some v, (k, value) :: rest)
    else
      let exchanged := exchange key value rest
      (exchanged.1, (k, v) :: exchanged.2)

theorem exchange_eq (key : String) (value : V) (entries : List (String × V)) :
    exchange key value entries = (entries.lookup key, put key value entries) := by
  induction entries with
  | nil => rfl
  | cons entry rest ih =>
    rw [exchange, put, List.lookup_cons, ih]
    by_cases same : entry.1 = key
    · simp [same]
    · have other : key ≠ entry.1 := fun h => same h.symm
      simp [same, beq_false_of_ne other]

def empty : OrderedMap V := ⟨[], List.nodup_nil⟩

instance : Inhabited (OrderedMap V) := ⟨empty⟩

def insert (map : OrderedMap V) (key : String) (value : V) : OrderedMap V :=
  ⟨put key value map.entries, nodup_keys_put key value map.distinct⟩

/-- Inserts the entries one after the other. -/
def insertAll (map : OrderedMap V) (entries : List (String × V)) : OrderedMap V :=
  entries.foldl (fun map entry => map.insert entry.1 entry.2) map

def ofList (entries : List (String × V)) : OrderedMap V := empty.insertAll entries

def get? (map : OrderedMap V) (key : String) : Option V := map.entries.lookup key

/-- Inserts the entry, and tells which value the key had before. -/
def getThenInsert (map : OrderedMap V) (key : String) (value : V) : Option V × OrderedMap V :=
  let exchanged := exchange key value map.entries
  (exchanged.1, ⟨exchanged.2, by
    change ((exchange key value map.entries).2.map Prod.fst).Nodup
    rw [exchange_eq]
    exact nodup_keys_put key value map.distinct⟩)

def contains (map : OrderedMap V) (key : String) : Bool := (map.get? key).isSome

def size (map : OrderedMap V) : Nat := map.entries.length

def keys (map : OrderedMap V) : List String := map.entries.map Prod.fst

/-- Changes every value, in sight of its key. -/
def mapValues (f : String → V → W) (map : OrderedMap V) : OrderedMap W :=
  ⟨map.entries.map fun entry => (entry.1, f entry.1 entry.2), by
    simpa [List.map_map, Function.comp_def] using map.distinct⟩

end OrderedMap

end Blueprint
