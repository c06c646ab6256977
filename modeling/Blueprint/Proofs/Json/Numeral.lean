import Blueprint.Json.Reader
import Blueprint.Json.Writer

/-!
Reading the whole numbers that are written. Those of a machine word come back as they were, in front
of any text that does not go on with a number.
-/

namespace Blueprint

namespace Json

open Text (isDigit digitValue)

/-! ### Decimal digits -/

theorem isDigit_of_mem_digitsOf {n : Nat} {c : Char} (member : c ∈ Number.digitsOf n) :
    isDigit c = true := by
  have digit : c.isDigit = true := Nat.isDigit_of_mem_toDigits (by decide) (by decide) member
  simp only [Char.isDigit, Bool.and_eq_true, decide_eq_true_eq] at digit
  simp only [isDigit, Bool.and_eq_true, decide_eq_true_eq, Char.le_def]
  exact digit

/-- The number that digits behind a number make of it. -/
def appendDigits (number : Nat) (digits : List Char) : Nat :=
  digits.foldl (fun n digit => n * 10 + digitValue digit) number

theorem le_appendDigits (number : Nat) (digits : List Char) :
    number ≤ appendDigits number digits := by
  induction digits generalizing number with
  | nil => exact Nat.le_refl _
  | cons digit digits ih =>
    have longer := ih (number * 10 + digitValue digit)
    change number ≤ appendDigits (number * 10 + digitValue digit) digits
    omega

theorem appendDigits_digitsOf (n : Nat) : appendDigits 0 (Number.digitsOf n) = n := by
  have whole : Nat.ofDigitChars 10 (Nat.toDigits 10 n) 0 = n :=
    Nat.ofDigitChars_toDigits (by decide) (by decide)
  rw [Nat.ofDigitChars_eq_foldl] at whole
  simp only [Nat.mul_comm 10] at whole
  exact whole

/-- No digits are left over if the number stays below the bound. -/
theorem absorb_eq {bound number : Nat} {digits : List Char}
    (small : appendDigits number digits < bound) :
    absorb bound number digits = (appendDigits number digits, []) := by
  induction digits generalizing number with
  | nil => rfl
  | cons digit digits ih =>
    have longer : number * 10 + digitValue digit < bound :=
      Nat.lt_of_le_of_lt (le_appendDigits _ digits) small
    rw [absorb, if_pos longer, ih small]
    rfl

/-- Only zero is written with a zero in front. -/
theorem head?_digitsOf {n : Nat} (positive : 0 < n) : (Number.digitsOf n).head? ≠ some '0' := by
  induction n using Nat.strongRecOn with
  | ind n ih =>
    by_cases single : n < 10
    · rw [Number.digitsOf, Nat.toDigits_of_lt_base single]
      intro zero
      have digits : ∀ d < 10, 0 < d → Nat.digitChar d ≠ '0' := by decide
      exact digits n single positive (Option.some.inj zero)
    · rw [Number.digitsOf, Nat.toDigits_of_base_le (by decide) (by omega), List.head?_append]
      have front := ih (n / 10) (by omega) (by omega)
      rw [Number.digitsOf] at front
      cases head : (Nat.toDigits 10 (n / 10)).head? with
      | none => exact absurd (List.head?_eq_none_iff.mp head) Nat.toDigits_ne_nil
      | some c => rwa [head] at front

theorem digitsOf_ne_superfluous (n : Nat) (second : Char) (more : List Char) :
    Number.digitsOf n ≠ '0' :: second :: more := by
  intro written
  by_cases positive : 0 < n
  · exact head?_digitsOf positive (by rw [written]; rfl)
  · rw [Nat.eq_zero_of_not_pos positive] at written
    cases written

/-! ### Numbers in front of other text -/

/-- A number goes on with such a character. -/
def continuesNumber (c : Char) : Bool := isDigit c || c == '.' || c == 'e' || c == 'E'

/-- A text does not go on with the number in front of it. -/
def EndsNumber (text : List Char) : Prop :=
  ∀ c, text.head? = some c → continuesNumber c = false

theorem EndsNumber.nil : EndsNumber [] := nofun

theorem EndsNumber.cons {c : Char} (other : continuesNumber c = false) (rest : List Char) :
    EndsNumber (c :: rest) := by
  intro d head
  cases head
  exact other

theorem EndsNumber.ne_cons {rest : List Char} (ends : EndsNumber rest) {c : Char}
    (continues : continuesNumber c = true) (after : List Char) : rest ≠ c :: after := by
  rintro rfl
  cases continues.symm.trans (ends c rfl)

theorem afterDigits_ends {negative : Bool} {significand : Nat} {exponent : Int}
    {plain : Option Number} {rest : List Char} (ends : EndsNumber rest) :
    afterDigits negative significand exponent plain rest = inRange plain rest := by
  unfold afterDigits
  split
  · next after => exact absurd rfl (ends.ne_cons rfl after)
  · next after => exact absurd rfl (ends.ne_cons rfl after)
  · rfl

theorem afterWhole_ends {negative : Bool} {significand : Nat} {rest : List Char}
    (ends : EndsNumber rest) :
    afterWhole negative significand [] rest = inRange (ofWhole negative significand) rest := by
  unfold afterWhole
  split
  · next fraction => exact absurd rfl (ends.ne_cons rfl fraction)
  · exact afterDigits_ends ends

theorem span_digitsOf (n : Nat) {rest : List Char} (ends : EndsNumber rest) :
    (Number.digitsOf n ++ rest).takeWhile isDigit = Number.digitsOf n ∧
      (Number.digitsOf n ++ rest).dropWhile isDigit = rest := by
  have digits : ∀ c ∈ Number.digitsOf n, isDigit c = true := fun _ => isDigit_of_mem_digitsOf
  rw [List.takeWhile_append_of_pos digits, List.dropWhile_append_of_pos digits]
  cases rest with
  | nil => simp
  | cons c after =>
    have stops : isDigit c = false := by
      have other := ends c rfl
      simp only [continuesNumber, Bool.or_eq_false_iff] at other
      exact other.1.1.1
    simp [stops]

theorem unsignedNumber_digitsOf {negative : Bool} {n : Nat} (small : n < wordBound)
    {rest : List Char} (ends : EndsNumber rest) :
    unsignedNumber negative (Number.digitsOf n ++ rest) = inRange (ofWhole negative n) rest := by
  have absorbed : absorb wordBound 0 (Number.digitsOf n) = (n, []) := by
    rw [absorb_eq (by rwa [appendDigits_digitsOf]), appendDigits_digitsOf]
  obtain ⟨taken, dropped⟩ := span_digitsOf n ends
  unfold unsignedNumber
  rw [taken, dropped]
  dsimp only
  split
  · next none => exact absurd none Nat.toDigits_ne_nil
  · next second more zero => exact absurd zero (digitsOf_ne_superfluous n second more)
  · rw [absorbed]
    exact afterWhole_ends ends

/-- The integers of a machine word, with or without a sign. -/
def IsWord (n : Int) : Prop := -(Word.count 63 : Int) ≤ n ∧ n < (Word.count 64 : Int)

/-- A written integer is a minus sign with digits behind it, or digits alone. -/
theorem scalar_integerText {n : Int} (word : IsWord n) {rest : List Char}
    (ends : EndsNumber rest) : ∃ c tail, Number.integerText n = c :: tail ∧
      (c = '-' ∨ isDigit c = true) ∧
      scalar c (tail ++ rest) = .ok (.number (.integer n), rest) := by
  obtain ⟨low, high⟩ := word
  have half : Word.count 63 < wordBound := by decide
  have small : n.natAbs < wordBound := by
    change _ < Word.count 64
    unfold wordBound at half
    omega
  by_cases negative : n < 0
  · refine ⟨'-', Number.digitsOf n.natAbs, by rw [Number.integerText, if_pos negative],
      .inl rfl, ?_⟩
    have fits : 0 < n.natAbs ∧ n.natAbs ≤ Word.count 63 := by omega
    have value : -(n.natAbs : Int) = n := by omega
    have whole : ofWhole true n.natAbs = some (.integer n) := by
      rw [ofWhole, if_neg (by decide), if_pos fits, value]
    change numberValue true (Number.digitsOf n.natAbs ++ rest) = _
    rw [numberValue, unsignedNumber_digitsOf small ends, whole]
    rfl
  · cases written : Number.digitsOf n.natAbs with
    | nil => exact absurd written Nat.toDigits_ne_nil
    | cons c tail =>
      have digit : isDigit c = true :=
        isDigit_of_mem_digitsOf (written ▸ List.mem_cons_self : c ∈ Number.digitsOf n.natAbs)
      have value : (n.natAbs : Int) = n := by omega
      refine ⟨c, tail, by rw [Number.integerText, if_neg negative, written], .inr digit, ?_⟩
      have other (d : Char) (letter : isDigit d = false) : c ≠ d := by
        rintro rfl
        cases digit.symm.trans letter
      have whole : ofWhole false n.natAbs = some (.integer n) := by
        rw [ofWhole, if_pos (by decide), value]
      rw [scalar, if_neg (other 'n' rfl), if_neg (other 't' rfl), if_neg (other 'f' rfl),
        if_neg (other '"' rfl), if_neg (other '-' rfl), if_pos digit, ← List.cons_append,
        ← written, numberValue, unsignedNumber_digitsOf small ends, whole]
      rfl

end Json

end Blueprint
