import Blueprint.Proofs.Template.Scan
import Blueprint.Template.Substitute
import Mathlib.Data.List.Infix

/-!
The passes that replace references without parentheses, one for each constant. A pass that is left
out because nothing was found beforehand would have changed nothing. Text that no such reference can
reach into is a border: the passes treat what stands on its two sides apart.
-/

namespace Blueprint.Template

variable {key value : List Char}

/-- One pass for an entry of a table. -/
def replaceEntry (text : List Char) (entry : String × Constant) : List Char :=
  replaceKey entry.1.toList entry.2.display.toList text

theorem replaceKey_cons {c : Char} (other : c ≠ '$') (rest : List Char) :
    replaceKey key value (c :: rest) = c :: replaceKey key value rest := by
  rw [replaceKey, if_neg fun both => other both.1]

theorem replaceKey_free {free : List Char} (none : '$' ∉ free) (rest : List Char) :
    replaceKey key value (free ++ rest) = free ++ replaceKey key value rest := by
  induction free with
  | nil => rfl
  | cons c free ih =>
    rw [List.mem_cons, not_or] at none
    rw [List.cons_append, replaceKey_cons fun same => none.1 same.symm, ih none.2,
      List.cons_append]

theorem replaceKey_of_free {text : List Char} (none : '$' ∉ text) :
    replaceKey key value text = text := by
  have free : replaceKey key value (text ++ []) = text ++ replaceKey key value [] :=
    replaceKey_free none []
  rw [List.append_nil] at free
  rw [free, replaceKey, List.append_nil]

theorem substituteBare_of_free {text : List Char} (none : '$' ∉ text)
    (entries : List (String × Constant)) : substituteBare entries text = text := by
  rw [substituteBare, if_neg none]

/-- Text without a dollar sign stays as it is. -/
theorem substitute_of_free {text : String} (none : '$' ∉ text.toList) (table : ConstantTable) :
    substitute table text = text := by
  rw [substitute, substituteChars, substituteReferences, if_neg none,
    substituteBare_of_free none, String.ofList_toList]

/-! ### What is looked for before a pass -/

theorem mentions_iff {text : List Char} : mentions key text = true ↔ '$' :: key <:+: text := by
  induction text with
  | nil => simp [mentions]
  | cons c rest ih =>
    rw [mentions, Bool.or_eq_true, Bool.and_eq_true, beq_iff_eq, List.isPrefixOf_iff_prefix, ih,
      List.infix_cons_iff, List.cons_prefix_cons, eq_comm]

theorem replaceKey_of_absent {text : List Char} (absent : ¬ '$' :: key <:+: text) :
    replaceKey key value text = text := by
  fun_induction replaceKey key value text with
  | case1 => rfl
  | case2 c rest found ih =>
    obtain ⟨rfl, begins⟩ := found
    have here : '$' :: key <+: '$' :: rest :=
      List.cons_prefix_cons.mpr ⟨rfl, List.isPrefixOf_iff_prefix.mp begins⟩
    exact absurd here.isInfix absent
  | case3 c rest elsewhere ih => rw [ih fun inside => absent (List.infix_cons inside)]

/-- Looking for the key first makes no difference. -/
theorem replaceMentioned_eq (key value text : List Char) :
    replaceMentioned key value text = replaceKey key value text := by
  unfold replaceMentioned
  split
  · rfl
  · next absent => exact (replaceKey_of_absent fun inside => absent (mentions_iff.mpr inside)).symm

/-- A text that has lost its last dollar sign never gets one again. -/
theorem foldl_replaceEntry_free {free : List Char} (none : '$' ∉ free)
    (entries : List (String × Constant)) : entries.foldl replaceEntry free = free := by
  induction entries with
  | nil => rfl
  | cons entry entries ih => rw [List.foldl_cons, replaceEntry, replaceKey_of_free none, ih]

/-- Stopping as soon as no dollar sign is left makes no difference. -/
theorem replaceEach_eq_foldl (entries : List (String × Constant)) (text : List Char) :
    replaceEach entries text = entries.foldl replaceEntry text := by
  induction entries generalizing text with
  | nil => rfl
  | cons entry rest ih =>
    simp only [replaceEach, replaceMentioned_eq, List.foldl_cons]
    split
    · exact ih _
    · next none => exact (foldl_replaceEntry_free none rest).symm

/-- A text without a dollar sign is one that no entry would change. -/
theorem substituteBare_eq_foldl (entries : List (String × Constant)) (text : List Char) :
    substituteBare entries text = entries.foldl replaceEntry text := by
  unfold substituteBare
  split
  · exact replaceEach_eq_foldl entries text
  · next none => exact (foldl_replaceEntry_free none entries).symm

/-! ### Borders -/

/-- A name does not reach into text that begins with another character. -/
theorem prefix_append_stops {text more : List Char} (keyChars : ∀ c ∈ key, isKeyChar c = true)
    (stops : Token.Stops isKeyChar more) : key <+: text ++ more ↔ key <+: text := by
  constructor
  · intro reaches
    induction key generalizing text with
    | nil => exact List.nil_prefix
    | cons c key ih =>
      obtain ⟨here, later⟩ := List.forall_mem_cons.mp keyChars
      cases text with
      | nil =>
        obtain ⟨_, same⟩ := reaches
        have stopped := stops c (by rw [← List.nil_append more, ← same]; rfl)
        rw [here] at stopped
        cases stopped
      | cons d text =>
        obtain ⟨rfl, further⟩ := List.cons_prefix_cons.mp reaches
        exact List.cons_prefix_cons.mpr ⟨rfl, ih later further⟩
  · exact fun inside => inside.trans (List.prefix_append text more)

theorem replaceKey_append {text more : List Char} (keyChars : ∀ c ∈ key, isKeyChar c = true)
    (stops : Token.Stops isKeyChar more) :
    replaceKey key value (text ++ more) =
      replaceKey key value text ++ replaceKey key value more := by
  fun_induction replaceKey key value text with
  | case1 => rfl
  | case2 c rest found ih =>
    have begins := List.isPrefixOf_iff_prefix.mp found.2
    have reaches := (prefix_append_stops keyChars stops).mpr begins
    rw [List.cons_append, replaceKey,
      if_pos ⟨found.1, List.isPrefixOf_iff_prefix.mpr reaches⟩,
      List.drop_append_of_le_length begins.length_le, ih, List.append_assoc]
  | case3 c rest absent ih =>
    have unreached : ¬(c = '$' ∧ key.isPrefixOf (rest ++ more)) := by
      rintro ⟨dollar, reaches⟩
      rw [List.isPrefixOf_iff_prefix, prefix_append_stops keyChars stops] at reaches
      exact absent ⟨dollar, List.isPrefixOf_iff_prefix.mpr reaches⟩
    rw [List.cons_append, replaceKey, if_neg unreached, ih, List.cons_append]

/-- No name stands directly behind the dollar sign of an opening. -/
theorem replaceKey_opening (isName : IsName key) (inner : List Char) :
    replaceKey key value ('$' :: '(' :: inner) = '$' :: '(' :: replaceKey key value inner := by
  have unreached : ¬('$' = '$' ∧ key.isPrefixOf ('(' :: inner)) := by
    rintro ⟨_, reaches⟩
    obtain ⟨c, tail, rfl⟩ := List.exists_cons_of_ne_nil isName.nonempty
    obtain ⟨rfl, _⟩ := List.cons_prefix_cons.mp (List.isPrefixOf_iff_prefix.mp reaches)
    exact (ne_of_isKeyChar (isName.keyChars '(' List.mem_cons_self)).2.2.1 rfl
  rw [replaceKey, if_neg unreached, replaceKey_cons (by decide)]

end Blueprint.Template
