import Blueprint.Proofs.Template.Bare
import Blueprint.Proofs.Template.References

/-!
References that substitution keeps as they are written: those with a backslash in front of them,
and those to names that are no constants. No text on one side of them has an effect on the other.
-/

namespace Blueprint.Template

open Token

variable {name kept : List Char}

/-- The written form of a reference, perhaps behind a backslash. -/
inductive Written (name : List Char) : List Char → Prop where
  | bare : Written name ('$' :: '(' :: (name ++ [')']))
  | escaped : Written name ('\\' :: '$' :: '(' :: (name ++ [')']))

theorem Written.stops (written : Written name kept) (rest : List Char) :
    Stops isKeyChar (kept ++ rest) := by
  intro c head
  cases written <;>
  · cases head
    decide

theorem replaceKey_written {key value : List Char} (isKey : IsName key)
    (keyChars : ∀ c ∈ name, isKeyChar c = true) (written : Written name kept) (rest : List Char) :
    replaceKey key value (kept ++ rest) = kept ++ replaceKey key value rest := by
  have free : '$' ∉ name ++ [')'] := by
    intro member
    rcases List.mem_append.mp member with inName | closing
    · exact (ne_of_isKeyChar (keyChars '$' inName)).1 rfl
    · cases List.mem_singleton.mp closing
  have behind : replaceKey key value (name ++ [')'] ++ rest) =
      name ++ [')'] ++ replaceKey key value rest := replaceKey_free free rest
  cases written with
  | bare =>
    rw [List.cons_append, List.cons_append, replaceKey_opening isKey, behind]
    rfl
  | escaped =>
    rw [List.cons_append, List.cons_append, List.cons_append, replaceKey_cons (by decide),
      replaceKey_opening isKey, behind]
    rfl

/-- All passes for bare references leave a written one alone and work on its two sides apart. -/
theorem foldl_replaceEntry_written {entries : List (String × Constant)}
    (names : ∀ entry ∈ entries, IsName entry.1.toList)
    (keyChars : ∀ c ∈ name, isKeyChar c = true) (written : Written name kept)
    (before after : List Char) :
    entries.foldl replaceEntry (before ++ (kept ++ after)) =
      entries.foldl replaceEntry before ++ (kept ++ entries.foldl replaceEntry after) := by
  induction entries generalizing before after with
  | nil => rfl
  | cons entry rest ih =>
    obtain ⟨isKey, others⟩ := List.forall_mem_cons.mp names
    have pass : replaceEntry (before ++ (kept ++ after)) entry =
        replaceEntry before entry ++ (kept ++ replaceEntry after entry) := by
      unfold replaceEntry
      rw [replaceKey_append isKey.keyChars (written.stops after),
        replaceKey_written isKey keyChars written]
    rw [List.foldl_cons, List.foldl_cons, List.foldl_cons, pass, ih others]

/-- A reference behind a backslash, or to a name that is no constant and behind none. -/
def Survives (table : ConstantTable) (before : List Char) (name : List Char) (kept : List Char) :
    Prop :=
  kept = '\\' :: '$' :: '(' :: (name ++ [')']) ∨
  kept = '$' :: '(' :: (name ++ [')']) ∧ table.get? (.ofList name) = none ∧
    before.getLast? ≠ some '\\'

theorem substituteReferences_around {table : ConstantTable} {before : List Char}
    (isName : IsName name) (survives : Survives table before name kept) (after : List Char) :
    substituteReferences table (before ++ (kept ++ after)) =
      substituteReferences table before ++ (kept ++ substituteReferences table after) := by
  rcases survives with rfl | ⟨rfl, unknown, free⟩
  · simp only [List.cons_append, List.append_assoc, List.nil_append]
    rw [substituteReferences_append (seam_backslash before _), substituteReferences_escaped isName]
  · simp only [List.cons_append, List.append_assoc, List.nil_append]
    rw [substituteReferences_append (seam_dollar free _),
      substituteReferences_unknown isName unknown]

theorem substituteChars_around {table : ConstantTable}
    (names : ∀ entry ∈ table.entries, IsName entry.1.toList) {before : List Char}
    (isName : IsName name) (survives : Survives table before name kept) (after : List Char) :
    substituteChars table (before ++ (kept ++ after)) =
      substituteChars table before ++ (kept ++ substituteChars table after) := by
  have written : Written name kept := by
    rcases survives with rfl | ⟨rfl, _⟩
    · exact .escaped
    · exact .bare
  unfold substituteChars
  simp only [substituteBare_eq_foldl]
  rw [substituteReferences_around isName survives,
    foldl_replaceEntry_written names isName.keyChars written]

/-- Substitution keeps a reference behind a backslash, and one to a name that is no constant and
behind no backslash. The texts on its two sides become what they become alone. -/
theorem substitute_around_kept {table : ConstantTable}
    (names : ∀ entry ∈ table.entries, IsName entry.1.toList) {key : String}
    (isName : IsName key.toList) {before kept : String}
    (survives : kept = "\\$(" ++ key ++ ")" ∨
      kept = "$(" ++ key ++ ")" ∧ table.get? key = none ∧ before.toList.getLast? ≠ some '\\')
    (after : String) :
    substitute table (before ++ kept ++ after) =
      substitute table before ++ kept ++ substitute table after := by
  have written : Survives table before.toList key.toList kept.toList := by
    rcases survives with rfl | ⟨rfl, unknown, free⟩
    · left
      simp only [String.toList_append]
      rfl
    · refine .inr ⟨?_, by rwa [String.ofList_toList], free⟩
      simp only [String.toList_append]
      rfl
  have around := substituteChars_around names isName written after.toList
  unfold substitute
  rw [String.toList_append, String.toList_append, List.append_assoc, around, String.ofList_append,
    String.ofList_append, String.ofList_toList, String.append_assoc]

/-- A constant that spells a reference to itself, and one whose value opens a reference. -/
def trickyConstants : ConstantTable :=
  .insertAll .empty [("a", .text "$(a)"), ("ab", .text "\\$(")]

/-- Without the reference between them the two sides would join to `$ab`. -/
theorem substitute_around_kept_tricky :
    (∀ entry ∈ trickyConstants.entries, IsName entry.1.toList) ∧
    IsName "c".toList ∧ trickyConstants.get? "c" = none ∧
    "$(ab)a$a".toList.getLast? ≠ some '\\' ∧
    substitute trickyConstants ("$(ab)a$a" ++ "$(c)" ++ "b)") =
      substitute trickyConstants "$(ab)a$a" ++ "$(c)" ++ substitute trickyConstants "b)" ∧
    substitute trickyConstants "$(ab)a$a" = "\\$(a$(a)" := by
  have names : ∀ entry ∈ trickyConstants.entries, IsName entry.1.toList := by decide +kernel
  have isName : IsName "c".toList := by decide +kernel
  have unknown : trickyConstants.get? "c" = none := by decide +kernel
  have free : "$(ab)a$a".toList.getLast? ≠ some '\\' := by decide +kernel
  refine ⟨names, isName, unknown, free, ?_, by decide +kernel⟩
  exact substitute_around_kept names isName (.inr ⟨by decide, unknown, free⟩) "b)"

end Blueprint.Template
