import Blueprint.OrderedMap

/-!
Values of TOML, and tables put together from their parts. Floats, booleans and dates are told apart
but not kept. A table is defined once: by a header, or by dotted keys. A table that is only on the
way to another one may still be defined.
-/

namespace Blueprint.Toml

inductive Value where
  | string (text : String)
  | integer (value : Int)
  | float
  | boolean
  | datetime
  | array (items : List Value)
  | table (entries : List (String × Value))

instance : Inhabited Value := ⟨.boolean⟩

/-- Text that is no TOML. -/
structure Malformed where
  deriving DecidableEq, Repr

/-- Deeper arrays and inline tables, and longer dotted keys, are refused. -/
def greatestDepth : Nat := 79

/-- How a table came to be. -/
inductive Origin where
  | header
  /-- By a header of a table inside it. -/
  | passed
  | dotted
  deriving DecidableEq, Repr

inductive Item where
  | value (value : Value)
  | table (origin : Origin) (entries : List (String × Item))
  /-- Tables under one name, the last one first. -/
  | tables (last : List (String × Item)) (others : List (List (String × Item)))

abbrev Entries := List (String × Item)

mutual

def Item.toValue : Item → Value
  | .value v => v
  | .table _ entries => .table (valuesOf entries)
  | .tables last others => .array (tablesOf others [.table (valuesOf last)])

def valuesOf : List (String × Item) → List (String × Value)
  | [] => []
  | (key, item) :: entries => (key, item.toValue) :: valuesOf entries

/-- Puts the tables in front of those that come after them. -/
def tablesOf : List (List (String × Item)) → List Value → List Value
  | [], later => later
  | entries :: earlier, later => tablesOf earlier (.table (valuesOf entries) :: later)

end

/-- Whether a dotted key may end in a table. -/
def acceptsKey : Item → Bool
  | .table .dotted _ => true
  | _ => false

/-- Sets a value that is not there yet, in a table that dotted keys lead to. -/
def assign (value : Value) : List String → Entries → Option Entries
  | [], _ => none
  | [key], entries =>
    if (entries.lookup key).isSome then none else some (entries ++ [(key, .value value)])
  | key :: next :: path, entries => do
    match entries.lookup key with
    | none => some (entries ++ [(key, .table .dotted (← assign value (next :: path) []))])
    | some item =>
      if path.isEmpty && !acceptsKey item then none
      else match item with
        | .value _ => none
        | .table .header _ => none
        | .table origin inner =>
          some (OrderedMap.put key (.table origin (← assign value (next :: path) inner)) entries)
        | .tables last others =>
          some (OrderedMap.put key (.tables (← assign value (next :: path) last) others) entries)

def assignAll (entries : Entries) (pairs : List (List String × Value)) : Option Entries :=
  pairs.foldlM (fun entries pair => assign pair.2 pair.1 entries) entries

/-- Changes the table that the names of a header lead to. -/
def within (change : Entries → Option Entries) : List String → Entries → Option Entries
  | [], entries => change entries
  | key :: path, entries => do
    match entries.lookup key with
    | none => some (entries ++ [(key, .table .passed (← within change path []))])
    | some (.value _) => none
    | some (.table origin inner) =>
      some (OrderedMap.put key (.table origin (← within change path inner)) entries)
    | some (.tables last others) =>
      some (OrderedMap.put key (.tables (← within change path last) others) entries)

inductive Header where
  | table (parents : List String) (name : String)
  /-- One more of several tables under one name. -/
  | element (parents : List String) (name : String)
  deriving DecidableEq, Repr

/-- A header and the keys below it. -/
structure Section where
  header : Header
  pairs : List (List String × Value)

def addSection (root : Entries) (part : Section) : Option Entries :=
  match part.header with
  | .table parents name =>
    within (fun entries => do
      match entries.lookup name with
      | none => some (entries ++ [(name, .table .header (← assignAll [] part.pairs))])
      | some (.table .passed inner) =>
        some (OrderedMap.put name (.table .header (← assignAll inner part.pairs)) entries)
      | some _ => none) parents root
  | .element parents name =>
    within (fun entries => do
      match entries.lookup name with
      | none => some (entries ++ [(name, .tables (← assignAll [] part.pairs) [])])
      | some (.tables last others) =>
        let added := Item.tables (← assignAll [] part.pairs) (last :: others)
        some (OrderedMap.put name added entries)
      | some _ => none) parents root

inductive Statement where
  | pair (path : List String) (value : Value)
  | header (header : Header)

/-- The pairs before the first header, and the parts that the headers begin. -/
def sections : List Statement → List (List String × Value) × List Section
  | [] => ([], [])
  | .pair path value :: rest =>
    let (pairs, parts) := sections rest
    ((path, value) :: pairs, parts)
  | .header header :: rest =>
    let (pairs, parts) := sections rest
    ([], ⟨header, pairs⟩ :: parts)

/-- The entries of the table that statements define. -/
def assemble (statements : List Statement) : Option (List (String × Value)) := do
  let (pairs, parts) := sections statements
  let root ← parts.foldlM addSection (← assignAll [] pairs)
  some (valuesOf root)

/-- An inline table, which is complete. -/
def inlineTable (pairs : List (List String × Value)) : Option Value := do
  some (.table (valuesOf (← assignAll [] pairs)))

end Blueprint.Toml
