import Blueprint.Proofs.Template.Bare
import Blueprint.Proofs.Template.References
import Blueprint.Proofs.Text.Separator

/-!
Substitution without shortcuts. Neither pass begins in a text without a dollar sign, no constant is
replaced that the text does not mention, and after the last dollar sign no further constant is
looked for. None of this has an effect: expanding every token and then replacing every constant of
the table, one after the other, gives the same text.
-/

namespace Blueprint.Template

open Text

/-- Replaces the name of an entry with a dollar sign before it by the displayed value, everywhere
from left to right. -/
def replaceThroughout (text : List Char) (entry : String × Constant) : List Char :=
  (Separator.literal ('$' :: entry.1.toList)).replace entry.2.display.toList text

/-- Expands every token and then goes through all entries, whatever is left of the text. -/
def substituteThroughout (table : ConstantTable) (text : List Char) : List Char :=
  table.entries.foldl replaceThroughout ((Token.scan text).flatMap (Token.expand table))

/-- A key with a dollar sign before it is one word, also if the key is empty or has dollar signs. -/
theorem replaceKey_eq_replace (key value text : List Char) :
    replaceKey key value text = (Separator.literal ('$' :: key)).replace value text := by
  fun_induction replaceKey key value text with
  | case1 => rw [Separator.replace]
  | case2 c rest found ih =>
    obtain ⟨rfl, begins⟩ := found
    have word : Separator.literal ('$' :: key) ('$' :: rest) = key.length + 1 := by
      simp [Separator.literal, begins]
    rw [Separator.replace_found word, ih]
  | case3 c rest absent ih =>
    have elsewhere : ¬('$' :: key).isPrefixOf (c :: rest) = true := by
      rw [List.isPrefixOf_cons_cons, Bool.and_eq_true, beq_iff_eq]
      exact fun both => absent ⟨both.1.symm, both.2⟩
    have noWord : Separator.literal ('$' :: key) (c :: rest) = 0 := if_neg elsewhere
    rw [Separator.replace_kept noWord, ih]

theorem replaceEntry_eq_replaceThroughout : replaceEntry = replaceThroughout := by
  funext text entry
  exact replaceKey_eq_replace entry.1.toList entry.2.display.toList text

/-- Substitution is the pass for references in parentheses followed by one replacement for each
constant, with nothing looked for beforehand and no end before the last constant. -/
theorem substitute_eq_substituteThroughout (table : ConstantTable) (text : String) :
    substitute table text = .ofList (substituteThroughout table text.toList) := by
  have passes : substituteChars table text.toList = substituteThroughout table text.toList :=
    calc substituteChars table text.toList
      _ = table.entries.foldl replaceEntry (substituteReferences table text.toList) :=
        substituteBare_eq_foldl table.entries _
      _ = table.entries.foldl replaceThroughout (substituteReferences table text.toList) := by
        rw [replaceEntry_eq_replaceThroughout]
      _ = substituteThroughout table text.toList := by
        rw [substituteReferences_eq, substituteThroughout]
  rw [substitute, passes]

/-- The empty name, a name that is a dollar sign, and values that put in new dollar signs. -/
def degenerateConstants : ConstantTable :=
  .insertAll .empty [("", .text "<$>"), ("$", .list ["$", "a"]), ("a", .text "$b")]

-- `$$` goes first, so that `$a` stands nowhere, and the empty name takes the dollar signs left.
example : substitute degenerateConstants "$$a $(a)" = "<$>, aa <$>b" := by decide +kernel

end Blueprint.Template
