/-!
Reading text piece by piece. A piece is read from the characters that are left and leaves fewer of
them, which is why whatever is made of such pieces ends.
-/

namespace Blueprint.Text

structure Reader (ε α : Type) where
  run : List Char → Except ε (α × List Char)
  advances : ∀ {text value rest}, run text = .ok (value, rest) → rest.length < text.length

/-- A run together with the evidence that it advanced. -/
def Reader.step (reader : Reader ε α) (text : List Char) :
    Except ε { read : α × List Char // read.2.length < text.length } :=
  match result : reader.run text with
  | .ok (value, rest) => .ok ⟨(value, rest), reader.advances result⟩
  | .error problem => .error problem

/-- What succeeds in two steps succeeds in each of them. -/
theorem bind_success {first : Except ε α} {next : α → Except ε β} {result : β}
    (success : first >>= next = .ok result) :
    ∃ value, first = .ok value ∧ next value = .ok result := by
  cases first with
  | error problem => cases success
  | ok value => exact ⟨value, rfl, success⟩

theorem length_dropWhile_le (p : Char → Bool) (text : List Char) :
    (text.dropWhile p).length ≤ text.length :=
  (List.dropWhile_sublist p).length_le

end Blueprint.Text
