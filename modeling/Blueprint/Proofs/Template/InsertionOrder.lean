import Blueprint.Proofs.Template.Document
import Mathlib.Data.List.Nodup

/-!
The order of the constants after any number of insertions. The names are those that were inserted,
each where it first came, sorted by length; the sort is stable, so that names of equal length stay
in the order in which they came. A name has the value that it was given last.
-/

namespace Blueprint.Template

/-! ### Stable sorting by length -/

/-- The names by their length in bytes, the longest first, equally long ones as they come. -/
def byLength (names : List String) : List String :=
  names.mergeSort fun a b => b.utf8ByteSize ≤ a.utf8ByteSize

/-- No name is shorter than one that follows it. -/
def Descends (names : List String) : Prop :=
  names.Pairwise fun a b => b.utf8ByteSize ≤ a.utf8ByteSize

/-- Two lists have the same names of every length, in the same order. -/
def SameByLength (first second : List String) : Prop :=
  ∀ size, first.filter (·.utf8ByteSize = size) = second.filter (·.utf8ByteSize = size)

variable {names first second : List String} {key name : String}

/-- Not to be longer is a total order of names up to their length, as sorting asks for. -/
theorem shorter_trans (a b c : String) (early : decide (b.utf8ByteSize ≤ a.utf8ByteSize) = true)
    (late : decide (c.utf8ByteSize ≤ b.utf8ByteSize) = true) :
    decide (c.utf8ByteSize ≤ a.utf8ByteSize) = true := by
  simp only [decide_eq_true_eq] at *
  omega

theorem shorter_total (a b : String) :
    (decide (b.utf8ByteSize ≤ a.utf8ByteSize) || decide (a.utf8ByteSize ≤ b.utf8ByteSize)) =
      true := by
  simp only [Bool.or_eq_true, decide_eq_true_eq]
  omega

theorem descends_byLength (names : List String) : Descends (byLength names) := by
  have sorted : (byLength names).Pairwise fun a b => decide (b.utf8ByteSize ≤ a.utf8ByteSize) =
      true := List.pairwise_mergeSort shorter_trans shorter_total names
  exact sorted.imp fun ordered => of_decide_eq_true ordered

theorem byLength_perm (names : List String) : (byLength names).Perm names :=
  List.mergeSort_perm names _

/-- Sorting keeps the order of equally long names. -/
theorem sameByLength_byLength (names : List String) : SameByLength (byLength names) names := by
  intro size
  have equallyLong : (names.filter (·.utf8ByteSize = size)).Pairwise
      fun a b => decide (b.utf8ByteSize ≤ a.utf8ByteSize) = true := by
    rw [List.pairwise_filter]
    refine List.pairwise_of_forall fun a b here there => ?_
    simp only [decide_eq_true_eq] at *
    omega
  have inside : (names.filter (·.utf8ByteSize = size)).Sublist (byLength names) :=
    List.sublist_mergeSort shorter_trans shorter_total equallyLong List.filter_sublist
  have kept := inside.filter (·.utf8ByteSize = size)
  rw [List.filter_filter] at kept
  simp only [Bool.and_self] at kept
  exact (kept.eq_of_length ((byLength_perm names).filter _).length_eq.symm).symm

/-- In a list that does not begin with a name of this length or a longer one there is none. -/
theorem filter_eq_nil_of_longer (sorted : Descends (name :: names)) {size : Nat}
    (longer : name.utf8ByteSize < size) :
    (name :: names).filter (·.utf8ByteSize = size) = [] := by
  rw [List.filter_eq_nil_iff]
  intro other member
  have bounded : other.utf8ByteSize ≤ name.utf8ByteSize := by
    rcases List.mem_cons.mp member with rfl | later
    · exact Nat.le_refl _
    · exact (List.pairwise_cons.mp sorted).1 other later
  simp only [decide_eq_true_eq]
  omega

/-- The names of every length and their order determine a sorted list. -/
theorem eq_of_sameByLength (firstSorted : Descends first) (secondSorted : Descends second)
    (same : SameByLength first second) : first = second := by
  induction first generalizing second with
  | nil =>
    cases second with
    | nil => rfl
    | cons name names =>
      have impossible := same name.utf8ByteSize
      simp at impossible
  | cons name names ih =>
    cases second with
    | nil =>
      have impossible := same name.utf8ByteSize
      simp at impossible
    | cons other others =>
      have here := same name.utf8ByteSize
      have there := same other.utf8ByteSize
      rcases Nat.lt_trichotomy name.utf8ByteSize other.utf8ByteSize with shorter | equal | longer
      · rw [filter_eq_nil_of_longer firstSorted shorter] at there
        simp at there
      · simp only [List.filter_cons, equal, decide_true, if_true, List.cons.injEq] at here
        obtain ⟨rfl, _⟩ := here
        refine congrArg (name :: ·) (ih (List.pairwise_cons.mp firstSorted).2
          (List.pairwise_cons.mp secondSorted).2 fun size => ?_)
        have whole := same size
        simp only [List.filter_cons] at whole
        split at whole
        · exact (List.cons.inj whole).2
        · exact whole
      · rw [filter_eq_nil_of_longer secondSorted longer] at here
        simp at here

theorem SameByLength.append {more : List String} (same : SameByLength first second) :
    SameByLength (first ++ more) (second ++ more) := by
  intro size
  rw [List.filter_append, List.filter_append, same size]

/-- What is sorted and has the names of every length in their order is the sorted list. -/
theorem eq_byLength (sorted : Descends first) (same : SameByLength first names) :
    first = byLength names :=
  eq_of_sameByLength sorted (descends_byLength names) fun size => by
    rw [same size, sameByLength_byLength names size]

/-! ### Names that have come before -/

/-- The earlier names may be sorted before the later ones come. -/
theorem byLength_eraseDups_append (names more : List String) :
    byLength (byLength names.eraseDups ++ more).eraseDups = byLength (names ++ more).eraseDups := by
  have distinct : (byLength names.eraseDups).Nodup :=
    (byLength_perm _).nodup_iff.mpr (OrderedMap.nodup_eraseDups names)
  have members : ∀ name, name ∈ byLength names.eraseDups ↔ name ∈ names := fun name => by
    rw [(byLength_perm _).mem_iff, List.mem_eraseDups]
  refine eq_byLength (descends_byLength _) fun size => ?_
  rw [sameByLength_byLength, List.eraseDups_append, List.eraseDups_append,
    OrderedMap.eraseDups_of_nodup distinct, OrderedMap.removeAll_congr members]
  exact (sameByLength_byLength _).append size

namespace ConstantTable

variable {table : ConstantTable} {value : Constant}

/-- The names of the constants in the order of the table. -/
def keys (table : ConstantTable) : List String := table.entries.map Prod.fst

/-! ### One insertion -/

theorem nodup_keys (table : ConstantTable) : table.keys.Nodup := table.distinct

theorem descends_keys (table : ConstantTable) : Descends table.keys :=
  List.pairwise_map.mpr table.longestFirst

/-- A new entry comes behind those with names of the same length. -/
theorem sameByLength_place {entries : List (String × Constant)}
    (sorted : entries.Pairwise LongerOrEqual) :
    SameByLength ((place (key, value) entries).map Prod.fst) (entries.map Prod.fst ++ [key]) := by
  induction entries with
  | nil => exact fun _ => rfl
  | cons entry rest ih =>
    intro size
    rw [place]
    split
    · next shorter =>
      -- All names from here on are shorter than the new one.
      have descends : Descends ((entry :: rest).map Prod.fst) := List.pairwise_map.mpr sorted
      rw [List.map_cons, List.filter_cons, List.filter_append]
      by_cases equal : key.utf8ByteSize = size
      · subst equal
        have nothing : ((entry :: rest).map Prod.fst).filter
            (·.utf8ByteSize = key.utf8ByteSize) = [] :=
          filter_eq_nil_of_longer descends shorter
        rw [nothing]
        simp
      · simp [equal]
    · rw [List.map_cons, List.map_cons, List.cons_append, List.filter_cons, List.filter_cons,
        ih (List.pairwise_cons.mp sorted).2 size]

/-- An insertion leaves the names in the order in which they came, sorted by length. -/
theorem keys_insert (table : ConstantTable) (key : String) (value : Constant) :
    (table.insert key value).keys = byLength (table.keys ++ [key]).eraseDups := by
  refine eq_byLength (descends_keys _) ?_
  rw [OrderedMap.eraseDups_append_of_nodup table.nodup_keys (List.nodup_singleton key)]
  unfold insert keys
  split
  · next present =>
    have kept := OrderedMap.keys_put key value table.entries
    rw [if_pos present] at kept
    rw [kept]
    simp [List.removeAll, present, SameByLength]
  · next absent =>
    have single : [key].removeAll (table.entries.map Prod.fst) = [key] := by
      simpa [List.removeAll] using absent
    rw [single]
    exact sameByLength_place table.longestFirst

/-! ### A run of insertions -/

theorem keys_insertAll (table : ConstantTable) (entries : List (String × Constant)) :
    (table.insertAll entries).keys = byLength (table.keys ++ entries.map Prod.fst).eraseDups := by
  induction entries generalizing table with
  | nil =>
    rw [List.map_nil, List.append_nil, OrderedMap.eraseDups_of_nodup table.nodup_keys]
    exact eq_byLength (descends_keys table) fun _ => rfl
  | cons entry rest ih =>
    calc (table.insertAll (entry :: rest)).keys
        = ((table.insert entry.1 entry.2).insertAll rest).keys := rfl
      _ = byLength ((table.insert entry.1 entry.2).keys ++ rest.map Prod.fst).eraseDups := ih _
      _ = byLength (byLength (table.keys ++ [entry.1]).eraseDups ++ rest.map Prod.fst).eraseDups := by
        rw [keys_insert]
      _ = byLength (table.keys ++ (entry :: rest).map Prod.fst).eraseDups := by
        rw [byLength_eraseDups_append, List.append_assoc, List.map_cons, List.singleton_append]

theorem get?_insertAll (table : ConstantTable) (entries : List (String × Constant))
    (key : String) :
    (table.insertAll entries).get? key = (entries.reverse.lookup key).or (table.get? key) := by
  induction entries generalizing table with
  | nil => rfl
  | cons entry rest ih =>
    change ((table.insert entry.1 entry.2).insertAll rest).get? key = _
    rw [ih, get?_insert, List.reverse_cons, List.lookup_append, Option.or_assoc]
    congr 1
    rw [OrderedMap.lookup_cons_if]
    split <;> rfl

/-- A table holds what was inserted into it: every name once, with the value that came last, and in
the order in which the names first came, sorted by length. -/
structure Holds (table : ConstantTable) (inserted : List (String × Constant)) : Prop where
  once : table.keys.Nodup
  last : ∀ key, table.get? key = inserted.reverse.lookup key
  order : table.keys = byLength (inserted.map Prod.fst).eraseDups

theorem holds_insertAll (entries : List (String × Constant)) :
    (empty.insertAll entries).Holds entries where
  once := nodup_keys _
  last key := by
    rw [get?_insertAll]
    exact Option.or_none
  order := keys_insertAll empty entries

end ConstantTable

/-! ### The constants of a document -/

/-- What a document tells about itself. -/
def metadata (info : Info) : List (String × Constant) :=
  [("name", .text info.name), ("version", .text info.version), ("authors", .list info.authors)]

namespace ConstantTable

theorem ofDocument_eq (document : Document) (glyphs : GlyphTable) :
    ofDocument document glyphs = empty.insertAll (metadata document.info ++
      document.consts.entries ++ glyphs.entries.map fun entry => (entry.1, .text entry.2)) :=
  rfl

/-- A glyph comes before a constant of the document, and that before what the document tells about
itself. -/
theorem get?_ofDocument (document : Document) (glyphs : GlyphTable) (key : String) :
    (ofDocument document glyphs).get? key = ((glyphs.get? key).map .text).or
      ((document.consts.get? key).or ((metadata document.info).lookup key)) := by
  have distinct : ((metadata document.info).map Prod.fst).Nodup := by
    change ["name", "version", "authors"].Nodup
    decide
  have known := OrderedMap.lookup_reverse distinct key
  have declared := OrderedMap.lookup_reverse document.consts.distinct key
  have drawn : (glyphs.entries.map fun entry => (entry.1, Constant.text entry.2)).reverse.lookup key
      = (glyphs.get? key).map .text := by
    have listed := (glyphs.mapValues fun _ => Constant.text).distinct
    exact (OrderedMap.lookup_reverse listed key).trans
      (OrderedMap.get?_mapValues (fun _ => Constant.text) glyphs key)
  rw [ofDocument_eq, (holds_insertAll _).last, List.reverse_append, List.reverse_append,
    List.lookup_append, List.lookup_append, drawn, declared, known]
  rfl

theorem keys_ofDocument (document : Document) (glyphs : GlyphTable) :
    (ofDocument document glyphs).keys = byLength
      (["name", "version", "authors"] ++ document.consts.keys ++ glyphs.keys).eraseDups := by
  rw [ofDocument_eq, (holds_insertAll _).order, List.map_append, List.map_append, List.map_map]
  rfl

end ConstantTable

/-- The names that substitution gives values to: that of the document and, unless it is empty, that
of its description. -/
def substitutedNames (table : ConstantTable) (document : Document) : List String :=
  "name" :: if (resolvedDescription table document).getD "" = "" then [] else ["description"]

theorem keys_finalTable (table : ConstantTable) (document : Document) :
    (finalTable table document).keys =
      byLength (table.keys ++ substitutedNames table document).eraseDups := by
  have named : (tableWithName table document).keys = byLength (table.keys ++ ["name"]).eraseDups :=
    table.keys_insert _ _
  unfold substitutedNames
  by_cases empty : (resolvedDescription table document).getD "" = ""
  · rw [finalTable_name empty, named, if_pos empty]
  · rw [if_neg empty]
    cases described : resolvedDescription table document with
    | none => exact absurd (by rw [described]; rfl) empty
    | some text =>
      rw [described, Option.getD_some] at empty
      rw [finalTable_both described empty, ConstantTable.keys_insert, named,
        byLength_eraseDups_append, List.append_assoc, List.singleton_append]

/-- Constants that are inserted one after the other are listed once each, with their last values, in
the order in which their names first came, stably sorted by length. So a name means a glyph if there
is one, else a constant of the document, else what the document tells about itself; and the order
stays so when substitution gives new values to the name and the description. -/
theorem constants_by_length_and_arrival :
    (∀ inserted : List (String × Constant),
      (ConstantTable.empty.insertAll inserted).Holds inserted) ∧
    (∀ (document : Document) (glyphs : GlyphTable),
      (∀ key, (ConstantTable.ofDocument document glyphs).get? key =
        ((glyphs.get? key).map .text).or
          ((document.consts.get? key).or ((metadata document.info).lookup key))) ∧
      (ConstantTable.ofDocument document glyphs).keys = byLength
        (["name", "version", "authors"] ++ document.consts.keys ++ glyphs.keys).eraseDups) ∧
    ∀ (table : ConstantTable) (document : Document),
      (tableWithName table document).keys = byLength (table.keys ++ ["name"]).eraseDups ∧
      (finalTable table document).keys =
        byLength (table.keys ++ substitutedNames table document).eraseDups := by
  refine ⟨ConstantTable.holds_insertAll, fun document glyphs => ⟨?_, ?_⟩,
    fun table document => ⟨table.keys_insert _ _, keys_finalTable table document⟩⟩
  · exact ConstantTable.get?_ofDocument document glyphs
  · exact ConstantTable.keys_ofDocument document glyphs

/-- A name that comes again keeps its place, and `zz` stays behind `ab`. -/
example : (ConstantTable.empty.insertAll [("a", .text "1"), ("ab", .text "2"), ("a", .text "3"),
    ("zz", .text "4"), ("éé", .text "5")]).entries =
    [("éé", .text "5"), ("ab", .text "2"), ("zz", .text "4"), ("a", .text "3")] := by
  decide +kernel

end Blueprint.Template
