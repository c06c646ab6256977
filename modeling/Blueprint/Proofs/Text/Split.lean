import Blueprint.Text.Split

/-!
Cutting text that was put together from pieces.
-/

namespace Blueprint.Text

variable {α : Type} [DecidableEq α] {separator : α}

theorem split_of_free {text : List α} (free : separator ∉ text) :
    split separator text = [text] := by
  induction text with
  | nil => rfl
  | cons c rest ih =>
    rw [List.mem_cons, not_or] at free
    rw [split, if_neg (Ne.symm free.1), ih free.2]

theorem split_append (before after : List α) :
    split separator (before ++ separator :: after) =
      split separator before ++ split separator after := by
  induction before with
  | nil => simp only [List.nil_append, split, if_true, List.singleton_append]
  | cons c rest ih =>
    rw [List.cons_append, split, split, ih]
    split
    · rw [List.cons_append]
    · cases pieces : split separator rest with
      | nil => exact absurd pieces (split_ne_nil separator rest)
      | cons piece others => rfl

/-- A text without the separator is one piece, and any other one is such a piece with the separator
and the rest of the text behind it. -/
theorem pieces_induction (separator : α) {motive : List α → Prop}
    (last : ∀ piece, separator ∉ piece → motive piece)
    (more : ∀ piece rest, separator ∉ piece → motive rest → motive (piece ++ separator :: rest))
    (text : List α) : motive text := by
  -- The rest behind a piece may be far down the text, so the induction is on the length.
  induction size : text.length using Nat.strongRecOn generalizing text with
  | ind size ih =>
    by_cases member : separator ∈ text
    · obtain ⟨piece, rest, rfl, first⟩ := List.eq_append_cons_of_mem member
      apply more piece rest first
      apply ih rest.length _ rest rfl
      rw [← size, List.length_append, List.length_cons]
      omega
    · exact last text member

theorem split_eq_singleton_iff {text piece : List α} :
    split separator text = [piece] ↔ text = piece ∧ separator ∉ piece := by
  constructor
  · intro single
    induction text using pieces_induction separator with
    | last whole free =>
      rw [split_of_free free] at single
      cases single
      exact ⟨rfl, free⟩
    | more first rest free ih =>
      rw [split_append, split_of_free free, List.singleton_append] at single
      exact absurd (List.cons.inj single).2 (split_ne_nil separator rest)
  · rintro ⟨rfl, free⟩
    exact split_of_free free

theorem split_eq_pair_iff {text first second : List α} :
    split separator text = [first, second] ↔
      text = first ++ separator :: second ∧ separator ∉ first ∧ separator ∉ second := by
  constructor
  · intro pair
    induction text using pieces_induction separator with
    | last whole free =>
      rw [split_of_free free] at pair
      cases pair
    | more piece rest free ih =>
      rw [split_append, split_of_free free, List.singleton_append] at pair
      obtain ⟨rfl, behind⟩ := List.cons.inj pair
      obtain ⟨rfl, last⟩ := split_eq_singleton_iff.mp behind
      exact ⟨rfl, free, last⟩
  · rintro ⟨rfl, free, last⟩
    rw [split_append, split_of_free free, split_of_free last, List.singleton_append]

/-- Lines one after the other, each with its newline. -/
def terminated (lines : List (List Char)) : List Char := lines.flatMap fun line => line ++ ['\n']

theorem split_terminated {lines : List (List Char)} (unbroken : ∀ line ∈ lines, '\n' ∉ line)
    (text : List Char) : split '\n' (terminated lines ++ text) = lines ++ split '\n' text := by
  induction lines with
  | nil => rfl
  | cons line lines ih =>
    obtain ⟨free, unbroken⟩ := List.forall_mem_cons.mp unbroken
    have parted : terminated (line :: lines) ++ text =
        line ++ '\n' :: (terminated lines ++ text) := by
      simp [terminated, List.append_assoc]
    rw [parted, split_append, split_of_free free, ih unbroken, List.singleton_append,
      List.cons_append]

theorem count_terminated {lines : List (List Char)} (unbroken : ∀ line ∈ lines, '\n' ∉ line) :
    (terminated lines).count '\n' = lines.length := by
  induction lines with
  | nil => rfl
  | cons line lines ih =>
    obtain ⟨free, unbroken⟩ := List.forall_mem_cons.mp unbroken
    have parted : terminated (line :: lines) = line ++ '\n' :: terminated lines := by
      simp [terminated]
    rw [parted, List.count_append, List.count_cons_self, ih unbroken,
      List.count_eq_zero_of_not_mem free, List.length_cons, Nat.zero_add]

/-- The first piece ends before the first separator. -/
theorem split_first [BEq α] [LawfulBEq α] (separator : α) (text : List α) :
    ∃ pieces, split separator text = text.takeWhile (· != separator) :: pieces := by
  induction text with
  | nil => exact ⟨[], rfl⟩
  | cons c rest ih =>
    by_cases same : c = separator
    · subst same
      refine ⟨split c rest, ?_⟩
      rw [split, if_pos rfl, List.takeWhile_cons_of_neg (by simp)]
    · obtain ⟨pieces, first⟩ := ih
      refine ⟨pieces, ?_⟩
      rw [split, if_neg same, first, List.takeWhile_cons_of_pos (by simp [same])]

end Blueprint.Text
