import Blueprint.OrderedMap

/-!
Looking keys up in maps that keep their order.
-/

namespace Blueprint.OrderedMap

variable {V W : Type}

theorem lookup_cons_ne {key other : String} (different : key ≠ other) (value : V)
    (entries : List (String × V)) :
    ((other, value) :: entries).lookup key = entries.lookup key := by
  rw [List.lookup_cons, beq_false_of_ne different]

theorem mem_of_lookup {key : String} {value : V} {entries : List (String × V)}
    (found : entries.lookup key = some value) : (key, value) ∈ entries := by
  obtain ⟨before, after, split, _⟩ := List.lookup_eq_some_iff.mp found
  rw [split]
  exact List.mem_append_right before List.mem_cons_self

theorem lookup_cons_if (key other : String) (value : V) (entries : List (String × V)) :
    ((other, value) :: entries).lookup key =
      if key = other then some value else entries.lookup key := by
  by_cases same : key = other
  · rw [same, List.lookup_cons_self, if_pos rfl]
  · rw [lookup_cons_ne same, if_neg same]

/-- What is looked up does not depend on the order of entries that have different names. -/
theorem lookup_reverse {entries : List (String × V)}
    (distinct : (entries.map Prod.fst).Nodup) (key : String) :
    entries.reverse.lookup key = entries.lookup key := by
  induction entries with
  | nil => rfl
  | cons entry rest ih =>
    rw [List.map_cons, List.nodup_cons] at distinct
    rw [List.reverse_cons, List.lookup_append, ih distinct.2, OrderedMap.lookup_cons_if,
      OrderedMap.lookup_cons_if]
    by_cases here : key = entry.1
    · have absent : rest.lookup key = none := by
        rw [List.lookup_eq_none_iff]
        intro other member
        rw [here, bne_iff_ne]
        intro same
        exact distinct.1 (same ▸ List.mem_map_of_mem member)
      rw [absent, if_pos here, if_pos here]
      rfl
    · rw [if_neg here, if_neg here]
      exact Option.or_none

/-- A put value is found, and all others are found as before. -/
theorem lookup_put (key other : String) (value : V) (entries : List (String × V)) :
    (put key value entries).lookup other =
      if other = key then some value else entries.lookup other := by
  induction entries with
  | nil => exact lookup_cons_if other key value []
  | cons entry rest ih =>
    rw [put]
    by_cases here : entry.1 = key
    · rw [if_pos here, lookup_cons_if, lookup_cons_if, here]
      split <;> rfl
    · rw [if_neg here, lookup_cons_if, lookup_cons_if, ih]
      by_cases same : other = entry.1
      · have different : other ≠ key := fun equal => here (same.symm.trans equal)
        simp only [if_pos same, if_neg different]
      · simp only [if_neg same]

theorem contains_iff_mem_keys {map : OrderedMap V} {key : String} :
    map.contains key = true ↔ key ∈ map.keys := by
  unfold contains get? keys
  rw [List.lookup_isSome_iff, List.mem_map]
  simp only [beq_iff_eq, eq_comm (a := key)]

theorem mem_keys_insert {map : OrderedMap V} {key other : String} {value : V} :
    other ∈ (map.insert key value).keys ↔ other = key ∨ other ∈ map.keys := by
  change other ∈ (put key value map.entries).map Prod.fst ↔ _
  rw [keys_put]
  split
  · next present =>
    constructor
    · exact .inr
    · rintro (rfl | member)
      · exact present
      · exact member
  · rw [List.mem_append, List.mem_singleton, or_comm]
    rfl

theorem mem_keys_insertAll {map : OrderedMap V} {entries : List (String × V)} {key : String} :
    key ∈ (map.insertAll entries).keys ↔ key ∈ entries.map Prod.fst ∨ key ∈ map.keys := by
  induction entries generalizing map with
  | nil =>
    rw [List.map_nil, or_iff_right List.not_mem_nil]
    rfl
  | cons entry rest ih =>
    change key ∈ ((map.insert entry.1 entry.2).insertAll rest).keys ↔ _
    rw [ih, mem_keys_insert, List.map_cons, List.mem_cons, or_left_comm, or_assoc]

theorem mem_of_mem_put {key : String} {value : V} {entries : List (String × V)}
    {entry : String × V} (member : entry ∈ put key value entries) :
    entry = (key, value) ∨ entry ∈ entries := by
  induction entries with
  | nil => exact .inl (List.mem_singleton.mp member)
  | cons first rest ih =>
    rw [put] at member
    split at member
    · next same =>
      rw [same] at member
      exact (List.mem_cons.mp member).imp_right (List.mem_cons_of_mem _)
    · rcases List.mem_cons.mp member with rfl | later
      · exact .inr List.mem_cons_self
      · exact (ih later).imp_right (List.mem_cons_of_mem _)

theorem mem_of_mem_insertAll {map : OrderedMap V} {entries : List (String × V)}
    {entry : String × V} (member : entry ∈ (map.insertAll entries).entries) :
    entry ∈ entries ∨ entry ∈ map.entries := by
  induction entries generalizing map with
  | nil => exact .inr member
  | cons first rest ih =>
    change entry ∈ ((map.insert first.1 first.2).insertAll rest).entries at member
    rcases ih member with later | put
    · exact .inl (List.mem_cons_of_mem _ later)
    · rcases mem_of_mem_put put with rfl | before
      · exact .inl List.mem_cons_self
      · exact .inr before

theorem mem_of_mem_ofList {entries : List (String × V)} {entry : String × V}
    (member : entry ∈ (ofList entries).entries) : entry ∈ entries :=
  (mem_of_mem_insertAll member).resolve_right List.not_mem_nil

/-- A put value does not move the other entries. -/
theorem filter_put {p : String → Bool} {key : String} (out : p key = false) (value : V)
    (entries : List (String × V)) :
    ((put key value entries).filter fun entry => p entry.1) =
      entries.filter fun entry => p entry.1 := by
  induction entries with
  | nil => simp [put, out]
  | cons entry rest ih =>
    rw [put]
    split
    · next same =>
      have first : p entry.1 = false := same ▸ out
      rw [List.filter_cons_of_neg (by simp [first]), List.filter_cons_of_neg (by simp [first])]
    · simp only [List.filter_cons, ih]

theorem put_of_absent {key : String} {entries : List (String × V)}
    (absent : key ∉ entries.map Prod.fst) (value : V) :
    put key value entries = entries ++ [(key, value)] := by
  induction entries with
  | nil => rfl
  | cons entry rest ih =>
    rw [List.map_cons, List.mem_cons, not_or] at absent
    rw [put, if_neg fun same => absent.1 same.symm, ih absent.2, List.cons_append]

theorem insertAll_of_nodup {map : OrderedMap V} {entries : List (String × V)}
    (distinct : ((map.entries ++ entries).map Prod.fst).Nodup) :
    (map.insertAll entries).entries = map.entries ++ entries := by
  induction entries generalizing map with
  | nil => rw [List.append_nil]; rfl
  | cons entry rest ih =>
    have absent : entry.1 ∉ map.entries.map Prod.fst := by
      rw [List.map_append, List.nodup_append] at distinct
      exact fun member => distinct.2.2 entry.1 member entry.1 List.mem_cons_self rfl
    have added : (map.insert entry.1 entry.2).entries = map.entries ++ [entry] :=
      put_of_absent absent entry.2
    have later : ((map.insert entry.1 entry.2).insertAll rest).entries =
        (map.insert entry.1 entry.2).entries ++ rest := by
      refine ih ?_
      rwa [added, List.append_assoc, List.singleton_append]
    change ((map.insert entry.1 entry.2).insertAll rest).entries = _
    rw [later, added, List.append_assoc, List.singleton_append]

/-- Entries with different keys are a map as they stand. -/
theorem ofList_of_nodup {entries : List (String × V)} (distinct : (entries.map Prod.fst).Nodup) :
    ofList entries = ⟨entries, distinct⟩ := by
  have listed : (ofList entries).entries = entries := insertAll_of_nodup distinct
  cases made : ofList entries
  rw [made] at listed
  cases listed
  rfl

theorem lookup_mapValues (f : String → V → W) (key : String) (entries : List (String × V)) :
    (entries.map fun entry => (entry.1, f entry.1 entry.2)).lookup key =
      (entries.lookup key).map (f key) := by
  induction entries with
  | nil => rfl
  | cons entry rest ih =>
    obtain ⟨other, value⟩ := entry
    rw [List.map_cons]
    by_cases same : key = other
    · rw [same, List.lookup_cons_self, List.lookup_cons_self]
      rfl
    · rw [lookup_cons_ne same, lookup_cons_ne same, ih]

/-- An entry is found under its new key if no other key gets it too. -/
theorem lookup_mapKeys {f : String → String} (g : V → W) {key : String}
    {entries : List (String × V)}
    (apart : ∀ other ∈ entries.map Prod.fst, f key = f other → key = other) :
    (entries.map fun entry => (f entry.1, g entry.2)).lookup (f key) =
      (entries.lookup key).map g := by
  induction entries with
  | nil => rfl
  | cons entry rest ih =>
    obtain ⟨here, later⟩ := List.forall_mem_cons.mp apart
    rw [List.map_cons, lookup_cons_if, lookup_cons_if, ih later]
    by_cases same : key = entry.1
    · simp [same]
    · rw [if_neg fun equal => same (here equal), if_neg same]

theorem mapValues_eq_self {f : String → V → V} {map : OrderedMap V}
    (kept : ∀ entry ∈ map.entries, f entry.1 entry.2 = entry.2) : map.mapValues f = map := by
  have each : ∀ entry ∈ map.entries, (entry.1, f entry.1 entry.2) = id entry :=
    fun entry member => by rw [kept entry member, id]
  have same := (List.map_congr_left each).trans (List.map_id map.entries)
  obtain ⟨entries, distinct⟩ := map
  simp only [mapValues, same]

/-- Values that change in place are found where they were. -/
theorem get?_mapValues (f : String → V → W) (map : OrderedMap V) (key : String) :
    (map.mapValues f).get? key = (map.get? key).map (f key) :=
  lookup_mapValues f key map.entries

/-! ### Names in the order in which they first come -/

section Names

variable {names first second : List String}

theorem eraseDups_of_nodup (distinct : names.Nodup) : names.eraseDups = names := by
  induction names with
  | nil => rfl
  | cons name names ih =>
    obtain ⟨absent, distinct⟩ := List.nodup_cons.mp distinct
    have others : names.filter (fun other => !other == name) = names := by
      rw [List.filter_eq_self]
      intro other member
      simp only [Bool.not_eq_true', beq_eq_false_iff_ne]
      rintro rfl
      exact absent member
    rw [List.eraseDups_cons, others, ih distinct]

theorem nodup_eraseDups : ∀ names : List String, names.eraseDups.Nodup
  | [] => List.nodup_nil
  | name :: names => by
    rw [List.eraseDups_cons, List.nodup_cons]
    constructor
    · simp [List.mem_eraseDups]
    · exact nodup_eraseDups _
termination_by names => names.length
decreasing_by exact Nat.lt_succ_of_le (List.length_filter_le _ _)

/-- Which of the later names are new depends on nothing but the earlier names as a set. -/
theorem removeAll_congr (same : ∀ name, name ∈ first ↔ name ∈ second) (more : List String) :
    more.removeAll first = more.removeAll second := by
  refine List.filter_congr fun name _ => ?_
  rw [Bool.eq_iff_iff]
  simp [same]

theorem eraseDups_append_of_nodup {more : List String} (distinct : names.Nodup)
    (others : more.Nodup) : (names ++ more).eraseDups = names ++ more.removeAll names := by
  rw [List.eraseDups_append, eraseDups_of_nodup distinct]
  exact congrArg (names ++ ·) (eraseDups_of_nodup (others.filter _))

theorem eraseDups_eraseDups_append (names more : List String) :
    (names.eraseDups ++ more).eraseDups = (names ++ more).eraseDups := by
  have members : ∀ name, name ∈ names.eraseDups ↔ name ∈ names := fun name => List.mem_eraseDups
  rw [List.eraseDups_append, List.eraseDups_append, eraseDups_of_nodup (nodup_eraseDups names),
    removeAll_congr members]

end Names

/-! ### A run of insertions -/

/-- A new name comes behind the others, and a known one stays where it is. -/
theorem keys_insert (map : OrderedMap V) (key : String) (value : V) :
    (map.insert key value).keys = (map.keys ++ [key]).eraseDups := by
  have single : [key].Nodup := by simp
  refine ((keys_put key value map.entries).trans ?_).trans
    (eraseDups_append_of_nodup map.distinct single).symm
  split
  · next present => simp [List.removeAll, present]
  · next absent =>
    have fresh : [key].removeAll (map.entries.map Prod.fst) = [key] := by
      simpa [List.removeAll] using absent
    rw [fresh]

theorem keys_insertAll (map : OrderedMap V) (entries : List (String × V)) :
    (map.insertAll entries).keys = (map.keys ++ entries.map Prod.fst).eraseDups := by
  induction entries generalizing map with
  | nil =>
    rw [List.map_nil, List.append_nil]
    exact (eraseDups_of_nodup map.distinct).symm
  | cons entry rest ih =>
    calc (map.insertAll (entry :: rest)).keys
        = ((map.insert entry.1 entry.2).insertAll rest).keys := rfl
      _ = ((map.keys ++ [entry.1]).eraseDups ++ rest.map Prod.fst).eraseDups := by
        rw [ih, keys_insert]
      _ = (map.keys ++ (entry :: rest).map Prod.fst).eraseDups := by
        rw [eraseDups_eraseDups_append, List.append_assoc, List.map_cons, List.singleton_append]

/-- A name has the value that was inserted last, or else the one from before. -/
theorem get?_insertAll (map : OrderedMap V) (entries : List (String × V)) (key : String) :
    (map.insertAll entries).get? key = (entries.reverse.lookup key).or (map.get? key) := by
  induction entries generalizing map with
  | nil => rfl
  | cons entry rest ih =>
    have inserted : (map.insert entry.1 entry.2).get? key =
        ([entry].lookup key).or (map.get? key) := by
      refine (lookup_put entry.1 key entry.2 map.entries).trans ?_
      rw [lookup_cons_if]
      split <;> rfl
    change ((map.insert entry.1 entry.2).insertAll rest).get? key = _
    rw [ih, inserted, List.reverse_cons, List.lookup_append, Option.or_assoc]

end Blueprint.OrderedMap
