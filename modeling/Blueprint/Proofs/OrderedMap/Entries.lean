import Blueprint.Proofs.OrderedMap
import Mathlib.Data.List.Basic
import Mathlib.Data.List.Induction

/-!
The entries of a map by its keys and the values that are found under them. So maps with the same
keys in the same order and the same values are the same map, whatever insertions they come from.
-/

namespace Blueprint.OrderedMap

variable {V : Type}

/-- The entries are the keys in their order, each with its value. -/
theorem entries_eq (map : OrderedMap V) :
    map.entries = map.keys.filterMap fun key => (map.get? key).map (key, ·) := by
  obtain ⟨entries, distinct⟩ := map
  change entries = (entries.map Prod.fst).filterMap fun key => (entries.lookup key).map (key, ·)
  induction entries with
  | nil => rfl
  | cons entry rest ih =>
    rw [List.map_cons, List.nodup_cons] at distinct
    have later : ∀ key ∈ rest.map Prod.fst, ((entry :: rest).lookup key).map (key, ·) =
        (rest.lookup key).map (key, ·) := by
      intro key member
      have different : key ≠ entry.1 := fun same => distinct.1 (same ▸ member)
      rw [lookup_cons_ne different]
    rw [List.map_cons, List.filterMap_cons, lookup_cons_if, if_pos rfl, List.filterMap_congr later,
      ← ih distinct.2]
    rfl

theorem eq_of_get? {first second : OrderedMap V} (keys : first.keys = second.keys)
    (get? : ∀ key, first.get? key = second.get? key) : first = second := by
  have entries : first.entries = second.entries := by
    rw [entries_eq first, entries_eq second, keys]
    simp only [get?]
  cases first
  cases second
  cases entries
  rfl

/-- The entries of another map win over those that are there. -/
theorem get?_insertAll_entries (map other : OrderedMap V) (key : String) :
    (map.insertAll other.entries).get? key = (other.get? key).or (map.get? key) := by
  rw [get?_insertAll, lookup_reverse other.distinct]
  rfl

theorem keys_ofList (entries : List (String × V)) :
    (ofList entries).keys = (entries.map Prod.fst).eraseDups := keys_insertAll empty entries

theorem getThenInsert_eq (map : OrderedMap V) (key : String) (value : V) :
    map.getThenInsert key value = (map.get? key, map.insert key value) := by
  simp only [getThenInsert, exchange_eq]
  rfl

/-- A key is found with the value that it was last inserted with. -/
theorem get?_ofList_eq_some_iff {entries : List (String × V)} {key : String} {value : V} :
    (ofList entries).get? key = some value ↔
      ∃ before after, entries = before ++ (key, value) :: after ∧ key ∉ after.map Prod.fst := by
  have last : (ofList entries).get? key = entries.reverse.lookup key :=
    (get?_insertAll empty entries key).trans Option.or_none
  have unlisted (after : List (String × V)) :
      key ∉ after.map Prod.fst ↔ ∀ entry ∈ after.reverse, (key != entry.1) = true := by
    simp only [List.mem_map, List.mem_reverse, bne_iff_ne, ne_eq, not_exists, not_and]
    exact forall₂_congr fun _ _ => not_congr eq_comm
  simp only [last, List.lookup_eq_some_iff, unlisted]
  constructor
  · rintro ⟨after, before, backwards, absent⟩
    refine ⟨before.reverse, after.reverse, ?_, by rwa [List.reverse_reverse]⟩
    rw [← entries.reverse_reverse, backwards]
    simp
  · rintro ⟨before, after, rfl, absent⟩
    exact ⟨after.reverse, before.reverse, by simp, absent⟩

section Items

variable {α β : Type} {items : List α} {p q : α → Prop}

/-- An item has the one property before any item has the other. -/
def ComesFirst (p q : α → Prop) (items : List α) : Prop :=
  ∃ before item after, items = before ++ item :: after ∧ p item ∧
    ∀ earlier ∈ item :: before, ¬q earlier

theorem ComesFirst.append (first : ComesFirst p q items) (more : List α) :
    ComesFirst p q (items ++ more) := by
  obtain ⟨before, item, after, rfl, here, absent⟩ := first
  exact ⟨before, item, after ++ more, by simp, here, absent⟩

/-- Of two places in a list, one is not behind the other. -/
theorem mem_before_or_mem_before {before after front back : List α} {item other : α}
    (split : before ++ item :: after = front ++ other :: back) :
    other ∈ item :: before ∨ item ∈ other :: front := by
  rcases List.append_eq_append_iff.mp split with ⟨between, rfl, behind⟩ | ⟨between, rfl, behind⟩
  · right
    cases between <;> simp [(List.cons.inj behind).1]
  · left
    cases between <;> simp [(List.cons.inj behind).1]

theorem ComesFirst.asymm (first : ComesFirst p q items) : ¬ComesFirst q p items := by
  obtain ⟨before, item, after, rfl, here, absent⟩ := first
  rintro ⟨front, other, back, split, there, otherAbsent⟩
  rcases mem_before_or_mem_before split with early | early
  · exact absent other early there
  · exact otherAbsent item early here

/-- What comes first among the results comes from the first items that have such a result. -/
theorem ComesFirst.of_filterMap {f : α → Option β} {p q : β → Prop}
    (first : ComesFirst p q (items.filterMap f)) :
    ComesFirst (fun item => ∃ result, f item = some result ∧ p result)
      (fun item => ∃ result, f item = some result ∧ q result) items := by
  obtain ⟨_, result, _, split, here, absent⟩ := first
  obtain ⟨front, back, rfl, rfl, behind⟩ := List.filterMap_eq_append_iff.mp split
  obtain ⟨silent, item, after, rfl, none, found, rfl⟩ := List.filterMap_eq_cons_iff.mp behind
  refine ⟨front ++ silent, item, after, by simp, ⟨result, found, here⟩, ?_⟩
  rintro earlier member ⟨other, otherFound, there⟩
  simp only [List.mem_cons, List.mem_append] at member absent
  rcases member with rfl | inFront | inSilent
  · obtain rfl := Option.some.inj (found.symm.trans otherFound)
    exact absent result (.inl rfl) there
  · exact absent other (.inr (List.mem_filterMap.mpr ⟨earlier, inFront, otherFound⟩)) there
  · rw [none earlier inSilent] at otherFound
    cases otherFound

theorem pairwise_eraseDups (names : List String) :
    names.eraseDups.Pairwise fun name other => ComesFirst (· = name) (· = other) names := by
  induction names using List.reverseRecOn with
  | nil => exact .nil
  | append_singleton names last ih =>
    rw [List.eraseDups_append, List.pairwise_append]
    refine ⟨ih.imp fun first => first.append [last], ?_, ?_⟩
    · rw [List.removeAll, List.filter_singleton]
      cases !List.elem last names <;> simp [List.eraseDups_cons]
    · intro name member other new
      obtain ⟨rfl, absent⟩ : other = last ∧ other ∉ names := by
        simpa [List.mem_eraseDups, List.removeAll] using new
      obtain ⟨before, after, rfl⟩ := List.append_of_mem (List.mem_eraseDups.mp member)
      refine ⟨before, name, after ++ [other], by simp, rfl, ?_⟩
      rintro earlier early rfl
      rcases List.mem_cons.mp early with rfl | inFront
      · exact absent (by simp)
      · exact absent (List.mem_append_left _ inFront)

def GivesKey (gives : α → String → V → Prop) (key : String) (item : α) : Prop :=
  ∃ value, gives item key value

/-- The map has the keys that the items give, in the order in which they are first given, each with
the value that it is given last. -/
structure Tabulates (gives : α → String → V → Prop) (items : List α) (map : OrderedMap V) :
    Prop where
  listed : ∀ key, key ∈ map.keys ↔ ∃ item ∈ items, GivesKey gives key item
  ordered : map.keys.Pairwise fun key other =>
    ComesFirst (GivesKey gives key) (GivesKey gives other) items
  last : ∀ key value, map.get? key = some value ↔ ∃ before item after,
    items = before ++ item :: after ∧ gives item key value ∧
      ∀ later ∈ after, ¬GivesKey gives key later

variable {gives : α → String → V → Prop} {map other : OrderedMap V}

/-- Items leave no choice what their map is. -/
theorem Tabulates.unique (tabulates : Tabulates gives items map)
    (another : Tabulates gives items other) : map = other := by
  apply eq_of_get?
  · have same : ∀ key, key ∈ map.keys ↔ key ∈ other.keys := fun key =>
      (tabulates.listed key).trans (another.listed key).symm
    refine List.Perm.eq_of_pairwise ?_ tabulates.ordered another.ordered
      ((List.perm_ext_iff_of_nodup map.distinct other.distinct).mpr same)
    intro key second _ _ first later
    exact absurd later first.asymm
  · intro key
    apply Option.ext
    intro value
    rw [tabulates.last, another.last]

variable {entryOf? : α → Option (String × V)}

theorem givesKey_iff
    (giving : ∀ {item key value}, entryOf? item = some (key, value) ↔ gives item key value)
    {item : α} {key : String} :
    GivesKey gives key item ↔ (entryOf? item).map Prod.fst = some key := by
  rw [Option.map_eq_some_iff]
  constructor
  · rintro ⟨value, given⟩
    exact ⟨(key, value), giving.mpr given, rfl⟩
  · rintro ⟨⟨_, value⟩, found, rfl⟩
    exact ⟨value, giving.mp found⟩

/-- Where every item gives at most one entry, the map is the one that these are inserted into. -/
theorem tabulates_filterMap
    (giving : ∀ {item key value}, entryOf? item = some (key, value) ↔ gives item key value)
    (items : List α) : Tabulates gives items (ofList (items.filterMap entryOf?)) := by
  have names (items : List α) : (items.filterMap entryOf?).map Prod.fst =
      items.filterMap fun item => (entryOf? item).map Prod.fst := List.map_filterMap
  have member (items : List α) (key : String) : key ∈ (items.filterMap entryOf?).map Prod.fst ↔
      ∃ item ∈ items, GivesKey gives key item := by
    simp only [names, List.mem_filterMap, givesKey_iff giving]
  constructor
  case listed =>
    intro key
    rw [keys_ofList, List.mem_eraseDups, member]
  case ordered =>
    have same (key : String) :
        GivesKey gives key = fun item => (entryOf? item).map Prod.fst = some key :=
      funext fun _ => propext (givesKey_iff giving)
    rw [keys_ofList, names]
    refine (pairwise_eraseDups _).imp fun first => ?_
    simpa only [exists_eq_right, same] using first.of_filterMap
  case last =>
    intro key value
    rw [get?_ofList_eq_some_iff]
    constructor
    · rintro ⟨_, _, split, absent⟩
      obtain ⟨front, back, rfl, rfl, behind⟩ := List.filterMap_eq_append_iff.mp split
      obtain ⟨silent, item, after, rfl, none, found, rfl⟩ := List.filterMap_eq_cons_iff.mp behind
      refine ⟨front ++ silent, item, after, by simp, giving.mp found, ?_⟩
      intro later inAfter given
      exact absent ((member after key).mpr ⟨later, inAfter, given⟩)
    · rintro ⟨before, item, after, rfl, given, silent⟩
      refine ⟨before.filterMap entryOf?, after.filterMap entryOf?, ?_, ?_⟩
      · rw [List.filterMap_append, List.filterMap_cons, giving.mpr given]
      · intro listed
        obtain ⟨later, inAfter, again⟩ := (member after key).mp listed
        exact silent later inAfter again

theorem tabulates_iff
    (giving : ∀ {item key value}, entryOf? item = some (key, value) ↔ gives item key value) :
    Tabulates gives items map ↔ map = ofList (items.filterMap entryOf?) := by
  constructor
  · intro tabulates
    exact tabulates.unique (tabulates_filterMap giving items)
  · rintro rfl
    exact tabulates_filterMap giving items

end Items

/-- An entry gives its key its value. -/
def Inserts (entry : String × V) (key : String) (value : V) : Prop := entry = (key, value)

theorem tabulates_inserts_iff {map : OrderedMap V} {entries : List (String × V)} :
    Tabulates Inserts entries map ↔ map = ofList entries := by
  have giving : ∀ {entry : String × V} {key value},
      some entry = some (key, value) ↔ Inserts entry key value := Option.some_inj
  rw [tabulates_iff giving, List.filterMap_some]

end Blueprint.OrderedMap
