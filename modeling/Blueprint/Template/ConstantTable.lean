import Blueprint.Document.Basic

/-!
The constants that text can refer to, longest name first, so that a short name never takes the
beginning of a longer one. Names of equal length stand in the order in which they came.
-/

namespace Blueprint.Template

/-- The first name of an entry is at least as long as the second, counted in bytes. -/
def LongerOrEqual (a b : String × Constant) : Prop := b.1.utf8ByteSize ≤ a.1.utf8ByteSize

structure ConstantTable where
  entries : List (String × Constant)
  distinct : (entries.map Prod.fst).Nodup
  longestFirst : entries.Pairwise LongerOrEqual
  deriving DecidableEq

namespace ConstantTable

/-- Adds an entry before the first one with a shorter name. -/
def place (entry : String × Constant) : List (String × Constant) → List (String × Constant)
  | [] => [entry]
  | first :: rest =>
    if first.1.utf8ByteSize < entry.1.utf8ByteSize then entry :: first :: rest
    else first :: place entry rest

theorem place_perm (entry : String × Constant) (entries : List (String × Constant)) :
    (place entry entries).Perm (entry :: entries) := by
  induction entries with
  | nil => exact List.Perm.refl _
  | cons first rest ih =>
    unfold place
    split
    · exact List.Perm.refl _
    · exact (ih.cons first).trans (List.Perm.swap entry first rest)

theorem longestFirst_place (entry : String × Constant) {entries : List (String × Constant)}
    (sorted : entries.Pairwise LongerOrEqual) : (place entry entries).Pairwise LongerOrEqual := by
  induction entries with
  | nil => simp [place]
  | cons first rest ih =>
    obtain ⟨above, sorted⟩ := List.pairwise_cons.mp sorted
    unfold place
    split
    · next shorter =>
      refine List.pairwise_cons.mpr ⟨fun other member => ?_, List.pairwise_cons.mpr ⟨above, sorted⟩⟩
      rcases List.mem_cons.mp member with same | member
      · rw [same]; exact Nat.le_of_lt shorter
      · exact Nat.le_trans (above other member) (Nat.le_of_lt shorter)
    · next longer =>
      refine List.pairwise_cons.mpr ⟨fun other member => ?_, ih sorted⟩
      rcases List.mem_cons.mp ((place_perm entry rest).mem_iff.mp member) with same | member
      · rw [same]; exact Nat.le_of_not_lt longer
      · exact above other member

theorem longestFirst_put (key : String) (value : Constant) {entries : List (String × Constant)}
    (sorted : entries.Pairwise LongerOrEqual) (present : key ∈ entries.map Prod.fst) :
    (OrderedMap.put key value entries).Pairwise LongerOrEqual := by
  have keys := OrderedMap.keys_put key value entries
  rw [if_pos present] at keys
  have lengths : ∀ list : List (String × Constant), list.Pairwise LongerOrEqual ↔
      (list.map Prod.fst).Pairwise fun a b => b.utf8ByteSize ≤ a.utf8ByteSize := fun list => by
    rw [List.pairwise_map]; rfl
  rw [lengths, keys, ← lengths]
  exact sorted

def empty : ConstantTable := ⟨[], List.nodup_nil, List.Pairwise.nil⟩

/-- Replaces the value of a known name in place, or adds a new name where its length belongs. -/
def insert (table : ConstantTable) (key : String) (value : Constant) : ConstantTable :=
  if present : key ∈ table.entries.map Prod.fst then
    ⟨OrderedMap.put key value table.entries, OrderedMap.nodup_keys_put key value table.distinct,
      longestFirst_put key value table.longestFirst present⟩
  else
    ⟨place (key, value) table.entries,
      ((place_perm (key, value) table.entries).map Prod.fst).nodup_iff.mpr
        (List.nodup_cons.mpr ⟨present, table.distinct⟩),
      longestFirst_place (key, value) table.longestFirst⟩

def insertAll (table : ConstantTable) (entries : List (String × Constant)) : ConstantTable :=
  entries.foldl (fun table entry => table.insert entry.1 entry.2) table

def get? (table : ConstantTable) (key : String) : Option Constant := table.entries.lookup key

def size (table : ConstantTable) : Nat := table.entries.length

end ConstantTable

end Blueprint.Template
