import Blueprint.Proofs.Text.Split

/-!
Cutting a text at separators that may have more than one spelling, at the leftmost ones that do not
overlap. Cutting at a character and dropping another one beside it comes to the same, but for the end
of the text that no separator is at.
-/

namespace Blueprint.Text

/-- How many characters at the beginning of a text are a separator. None are if it begins with
something else. -/
abbrev Separator := List Char → Nat

namespace Separator

/-- One spelling only. -/
def literal (word : List Char) : Separator :=
  fun text => if word.isPrefixOf text then word.length else 0

/-- The pieces between the separators, from left to right. -/
def cut (separator : Separator) : List Char → List (List Char)
  | [] => [[]]
  | c :: rest =>
    match separator (c :: rest) with
    | 0 => (cut separator rest).modifyHead (c :: ·)
    | length + 1 => [] :: cut separator (rest.drop length)
termination_by text => text.length
decreasing_by all_goals simp only [List.length_cons, List.length_drop]; omega

/-- The text with something else for each separator, from left to right. -/
def replace (separator : Separator) (other : List Char) : List Char → List Char
  | [] => []
  | c :: rest =>
    match separator (c :: rest) with
    | 0 => c :: replace separator other rest
    | length + 1 => other ++ replace separator other (rest.drop length)
termination_by text => text.length
decreasing_by all_goals simp only [List.length_cons, List.length_drop]; omega

variable {separator : Separator} {c : Char} {rest other : List Char}

theorem cut_nil (separator : Separator) : separator.cut [] = [[]] := by rw [cut]

theorem cut_kept (none : separator (c :: rest) = 0) :
    separator.cut (c :: rest) = (separator.cut rest).modifyHead (c :: ·) := by
  rw [cut, none]

theorem cut_found {length : Nat} (found : separator (c :: rest) = length + 1) :
    separator.cut (c :: rest) = [] :: separator.cut (rest.drop length) := by
  rw [cut, found]

theorem replace_kept (none : separator (c :: rest) = 0) :
    separator.replace other (c :: rest) = c :: separator.replace other rest := by
  rw [replace, none]

theorem replace_found {length : Nat} (found : separator (c :: rest) = length + 1) :
    separator.replace other (c :: rest) = other ++ separator.replace other (rest.drop length) := by
  rw [replace, found]

theorem cut_ne_nil (separator : Separator) (text : List Char) : separator.cut text ≠ [] := by
  fun_induction Separator.cut separator text with
  | case1 => simp
  | case2 c rest none ih =>
    intro empty
    apply ih
    simpa using empty
  | case3 c rest length found ih => simp

/-- In front of a place where the text goes on, nothing is cut if no separator begins there. -/
theorem cut_append {front more : List Char}
    (unseparated : ∀ c after, c :: after <:+ front → separator (c :: (after ++ more)) = 0) :
    separator.cut (front ++ more) = (separator.cut more).modifyHead (front ++ ·) := by
  induction front with
  | nil =>
    change separator.cut more = (separator.cut more).modifyHead id
    rw [List.modifyHead_id, id]
  | cons c after ih =>
    have further := ih fun d rest inside => unseparated d rest (inside.trans (List.suffix_cons c after))
    rw [List.cons_append, cut_kept (unseparated c after (List.suffix_refl _)), further,
      List.modifyHead_modifyHead]
    rfl

/-- Putting one text between all pieces is putting it in the place of all separators. -/
theorem intercalate_cut (separator : Separator) (other text : List Char) :
    other.intercalate (separator.cut text) = separator.replace other text := by
  fun_induction Separator.cut separator text with
  | case1 => simp [replace]
  | case2 c rest none ih =>
    rw [replace_kept none, ← ih]
    cases pieces : separator.cut rest with
    | nil => exact absurd pieces (cut_ne_nil separator rest)
    | cons piece pieces => simp
  | case3 c rest length found ih =>
    rw [replace_found found, ← ih, List.intercalate_cons_of_ne_nil (cut_ne_nil _ _), List.nil_append]

end Separator

end Blueprint.Text
