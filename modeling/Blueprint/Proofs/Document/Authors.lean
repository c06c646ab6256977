import Blueprint.Document.Starter
import Blueprint.Proofs.Schematic.Lossless
import Blueprint.Proofs.Text.Separator

/-!
The authors of the document that a new schematic starts from. They are what stands between the commas
of a text, each comma together with a space behind it, except that a space at the very beginning of
the text is lost.
-/

namespace Blueprint.Starter

open Text (Separator)

/-- A comma, together with a space behind it. -/
def authorComma : Separator
  | ',' :: ' ' :: _ => 2
  | ',' :: _ => 1
  | _ => 0

variable {name rest : List Char}

/-! ### Spaces at the beginning -/

theorem dropSpace_of_ne {text : List Char} (other : text.head? ≠ some ' ') :
    dropSpace text = text := by
  unfold dropSpace
  split
  · simp at other
  · rfl

theorem dropSpace_append (name rest : List Char) :
    dropSpace (name ++ ',' :: rest) = dropSpace name ++ ',' :: rest := by
  cases name with
  | nil => rfl
  | cons c more =>
    by_cases space : c = ' '
    · subst space
      rfl
    · rw [dropSpace_of_ne (by simpa using space), dropSpace_of_ne (by simpa using space)]

theorem mem_of_mem_dropSpace {c : Char} {text : List Char} (member : c ∈ dropSpace text) :
    c ∈ text := by
  unfold dropSpace at member
  split at member
  · exact List.mem_cons_of_mem _ member
  · exact member

/-! ### Cutting at commas -/

theorem authorComma_of_ne {c : Char} (other : c ≠ ',') : authorComma (c :: rest) = 0 := by
  unfold authorComma
  split
  · next same => exact absurd (List.cons.inj same).1 other
  · next same => exact absurd (List.cons.inj same).1 other
  · rfl

theorem cut_behind_comma (rest : List Char) :
    authorComma.cut (',' :: rest) = [] :: authorComma.cut (dropSpace rest) := by
  by_cases spaced : rest.head? = some ' '
  · obtain ⟨more, rfl⟩ := List.head?_eq_some_iff.mp spaced
    have both : authorComma (',' :: ' ' :: more) = 1 + 1 := rfl
    rw [Separator.cut_found both]
    rfl
  · have single : authorComma (',' :: rest) = 0 + 1 := by
      unfold authorComma
      split
      · next same =>
        obtain rfl := (List.cons.inj same).2
        simp at spaced
      · rfl
      · next other => exact absurd rfl (other rest)
    rw [Separator.cut_found single, dropSpace_of_ne spaced]
    rfl

theorem cut_name_append (free : ',' ∉ name) : authorComma.cut (name ++ rest) =
    (authorComma.cut rest).modifyHead (name ++ ·) := by
  apply Separator.cut_append
  intro c after inside
  apply authorComma_of_ne
  rintro rfl
  exact free (inside.subset List.mem_cons_self)

theorem cut_name (free : ',' ∉ name) : authorComma.cut name = [name] := by
  have whole : authorComma.cut (name ++ []) = (authorComma.cut []).modifyHead (name ++ ·) :=
    cut_name_append free
  simpa [Separator.cut_nil] using whole

theorem cut_first (free : ',' ∉ name) : authorComma.cut (name ++ ',' :: rest) =
    name :: authorComma.cut (dropSpace rest) := by
  rw [cut_name_append free, cut_behind_comma]
  simp

theorem cut_joined {names : List (List Char)} (some : names ≠ []) (free : ∀ name ∈ names, ',' ∉ name) :
    authorComma.cut ([',', ' '].intercalate names) = names := by
  induction names with
  | nil => exact absurd rfl some
  | cons name others ih =>
    obtain ⟨first, free⟩ := List.forall_mem_cons.mp free
    cases others with
    | nil => rw [List.intercalate_singleton, cut_name first]
    | cons next others =>
      have joined : [',', ' '].intercalate (name :: next :: others) =
          name ++ ',' :: ' ' :: [',', ' '].intercalate (next :: others) := by
        simp [List.intercalate_cons_cons]
      have behind := ih (List.cons_ne_nil next others) free
      rw [joined, cut_first first, dropSpace, behind]

theorem split_eq (text : List Char) :
    (Text.split ',' text).map dropSpace = authorComma.cut (dropSpace text) := by
  induction text using Text.pieces_induction ',' with
  | last name free =>
    have still : ',' ∉ dropSpace name := fun member => free (mem_of_mem_dropSpace member)
    rw [Text.split_of_free free, List.map_singleton, cut_name still]
  | more name rest free ih =>
    have still : ',' ∉ dropSpace name := fun member => free (mem_of_mem_dropSpace member)
    rw [Text.split_append, Text.split_of_free free, List.singleton_append, List.map_cons, ih,
      dropSpace_append, cut_first still]

/-- A space at the beginning belongs to the first piece. -/
theorem cut_dropSpace_iff (text : List Char) :
    authorComma.cut (dropSpace text) = authorComma.cut text ↔ text.head? ≠ some ' ' := by
  constructor
  · intro same spaced
    obtain ⟨rest, rfl⟩ := List.head?_eq_some_iff.mp spaced
    rw [dropSpace, Separator.cut_kept (authorComma_of_ne (by decide))] at same
    cases pieces : authorComma.cut rest with
    | nil => exact Separator.cut_ne_nil _ _ pieces
    | cons piece others =>
      -- Only on one side does the first piece have the space.
      rw [pieces, List.modifyHead_cons] at same
      have lengths := congrArg List.length (List.cons.inj same).1
      rw [List.length_cons] at lengths
      omega
  · intro other
    rw [dropSpace_of_ne other]

/-! ### The authors of a document -/

/-- The authors that a text names, if they stand between commas that may have a space behind them. -/
def authorsBetween (text : String) : List String := (authorComma.cut text.toList).map .ofList

theorem authorList_eq (text : String) :
    authorList text = (authorComma.cut (dropSpace text.toList)).map .ofList := by
  rw [authorList, ← split_eq, List.map_map]
  rfl

theorem authorList_eq_iff (text : String) :
    authorList text = authorsBetween text ↔ text.toList.head? ≠ some ' ' := by
  rw [authorList_eq, authorsBetween, List.map_inj_right fun _ _ same => String.ofList_injective same,
    cut_dropSpace_iff]

theorem authorsBetween_joined {names : List String} (some : names ≠ [])
    (free : ∀ name ∈ names, ',' ∉ name.toList) :
    authorsBetween (", ".intercalate names) = names := by
  have chars : (", ".intercalate names).toList = [',', ' '].intercalate (names.map String.toList) :=
    String.toList_intercalate
  have parts : names.map String.toList ≠ [] := by simpa using some
  rw [authorsBetween, chars, cut_joined parts (by simpa using free)]
  simp [List.map_map, Function.comp_def]

/-- The authors that a document lists. -/
def listedAuthors? (document : Json) : Option Json :=
  (document.member? "info").bind (Json.member? "authors")

theorem listedAuthors?_document (name : String) (description : Option String) (text : String) :
    listedAuthors? (document name description (some text)) = some (.ofStrings (authorList text)) :=
  rfl

theorem listedAuthors?_eq_iff (name : String) (description : Option String) (text : String) :
    listedAuthors? (document name description (some text)) =
        some (.ofStrings (authorsBetween text)) ↔ text.toList.head? ≠ some ' ' := by
  rw [listedAuthors?_document, Option.some_inj, Json.ofStrings_injective.eq_iff, authorList_eq_iff]

theorem head?_joined (first : String) (others : List String) :
    (", ".intercalate (first :: others)).toList.head? = some ' ' ↔
      first.toList.head? = some ' ' := by
  cases others with
  | nil => rw [String.intercalate_singleton]
  | cons next others =>
    rw [String.intercalate_cons_cons, String.append_assoc, String.toList_append, List.head?_append]
    cases first.toList with
    | nil => simp
    | cons c rest => simp

/-- The authors of the document are what stands between the commas of a text, each together with a
space behind it, if and only if no space begins the text. Such a first one is behind no comma, but it
is lost. So names without commas that are joined by a comma and a space come back unless the first of
them begins with a space. -/
theorem starter_authors_iff (name : String) (description : Option String) :
    (∀ text, listedAuthors? (document name description (some text)) =
        some (.ofStrings (authorsBetween text)) ↔ text.toList.head? ≠ some ' ') ∧
    (∀ rest, listedAuthors? (document name description (some (.ofList (' ' :: rest)))) =
        some (.ofStrings (authorsBetween (.ofList rest)))) ∧
    ∀ first others, (∀ author ∈ first :: others, ',' ∉ author.toList) →
      (listedAuthors? (document name description (some (", ".intercalate (first :: others)))) =
        some (.ofStrings (first :: others)) ↔ first.toList.head? ≠ some ' ') := by
  refine ⟨listedAuthors?_eq_iff name description, ?_, ?_⟩
  · intro rest
    rw [listedAuthors?_document, authorList_eq, authorsBetween, String.toList_ofList,
      String.toList_ofList]
    rfl
  · intro first others free
    have between := authorsBetween_joined (List.cons_ne_nil first others) free
    have listed := listedAuthors?_eq_iff name description (", ".intercalate (first :: others))
    rw [between] at listed
    rw [listed, ne_eq, head?_joined]

/-- Names with spaces of their own, and an empty one. -/
theorem starter_authors_iff_spaced :
    listedAuthors? (document "n" none (some (", ".intercalate ["ann o", " bo ", "", "cy"]))) =
      some (.ofStrings ["ann o", " bo ", "", "cy"]) := by
  have free : ∀ author ∈ ["ann o", " bo ", "", "cy"], ',' ∉ author.toList := by decide
  exact ((starter_authors_iff "n" none).2.2 "ann o" [" bo ", "", "cy"] free).mpr (by decide)

/-- The space that begins the text does not come through, though no comma is before it. -/
theorem first_space_lost :
    listedAuthors? (document "n" none (some " ann, bo")) = some (.ofStrings ["ann", "bo"]) ∧
    authorsBetween " ann, bo" = [" ann", "bo"] ∧ [" ann", "bo"] ≠ ["ann", "bo"] ∧
    ", ".intercalate [" ann", "bo"] = " ann, bo" := by
  have chars : " ann, bo".toList = [' ', 'a', 'n', 'n'] ++ ',' :: [' ', 'b', 'o'] :=
    String.toList_ofList
  refine ⟨?_, ?_, by decide, by decide⟩
  · rw [listedAuthors?_document, authorList, chars]
    rfl
  · rw [authorsBetween, chars, cut_first (by decide), dropSpace, cut_name (by decide)]
    rfl

end Blueprint.Starter
