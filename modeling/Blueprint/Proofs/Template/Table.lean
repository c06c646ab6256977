import Blueprint.Proofs.OrderedMap
import Blueprint.Template.ConstantTable

/-!
Looking names up in a table of constants after others have been added.
-/

namespace Blueprint.Template.ConstantTable

variable {table : ConstantTable} {key other : String} {value : Constant}

theorem lookup_place {entries : List (String × Constant)} (absent : key ∉ entries.map Prod.fst) :
    (place (key, value) entries).lookup other =
      if other = key then some value else entries.lookup other := by
  induction entries with
  | nil => exact OrderedMap.lookup_cons_if other key value []
  | cons first rest ih =>
    rw [List.map_cons, List.mem_cons, not_or] at absent
    unfold place
    split
    · exact OrderedMap.lookup_cons_if other key value _
    · rw [OrderedMap.lookup_cons_if, OrderedMap.lookup_cons_if, ih absent.2]
      by_cases same : other = first.1
      · have different : other ≠ key := fun equal => absent.1 (equal.symm.trans same)
        simp only [if_pos same, if_neg different]
      · simp only [if_neg same]

/-- A name has the value that it was given last. -/
theorem get?_insert (table : ConstantTable) (key other : String) (value : Constant) :
    (table.insert key value).get? other = if other = key then some value else table.get? other := by
  unfold get? insert
  split
  · exact OrderedMap.lookup_put key other value table.entries
  · next absent => exact lookup_place absent

theorem mem_of_mem_insert {entry : String × Constant}
    (member : entry ∈ (table.insert key value).entries) :
    entry = (key, value) ∨ entry ∈ table.entries := by
  unfold insert at member
  split at member
  · exact OrderedMap.mem_of_mem_put member
  · exact List.mem_cons.mp ((place_perm (key, value) table.entries).mem_iff.mp member)

theorem filter_place {p : String → Bool} {key : String} (out : p key = false) (value : Constant)
    (entries : List (String × Constant)) :
    ((place (key, value) entries).filter fun entry => p entry.1) =
      entries.filter fun entry => p entry.1 := by
  induction entries with
  | nil => simp [place, out]
  | cons entry rest ih =>
    rw [place]
    split
    · rw [List.filter_cons, if_neg (by simp [out])]
    · simp only [List.filter_cons, ih]

/-- An insertion does not move the other entries. -/
theorem filter_insert {p : String → Bool} {key : String} (out : p key = false) (value : Constant) :
    ((table.insert key value).entries.filter fun entry => p entry.1) =
      table.entries.filter fun entry => p entry.1 := by
  unfold insert
  split
  · exact OrderedMap.filter_put out value table.entries
  · exact filter_place out value table.entries

theorem mem_of_get? (found : table.get? key = some value) : (key, value) ∈ table.entries :=
  OrderedMap.mem_of_lookup found

end Blueprint.Template.ConstantTable
