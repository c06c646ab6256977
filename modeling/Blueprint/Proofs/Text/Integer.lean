import Blueprint.Text.Integer
import Blueprint.Text.Split

/-!
Which texts denote which whole numbers: those that are a sign, which may be left out, and at least one
decimal digit. Trimming leaves such a text exactly where there are blanks around it and nothing else.
-/

namespace Blueprint.Text

inductive Sign where
  | absent | plus | minus
  deriving DecidableEq, Repr

def Sign.text : Sign → List Char
  | absent => []
  | plus => ['+']
  | minus => ['-']

def Sign.apply : Sign → Nat → Int
  | minus, n => -n
  | _, n => n

/-- A sign, which may be absent, and at least one decimal digit. -/
def IsNumeral (text : List Char) (n : Int) : Prop :=
  ∃ (sign : Sign) (digits : List Char), text = sign.text ++ digits ∧ digits ≠ [] ∧
    (∀ c ∈ digits, c.isDigit = true) ∧ n = sign.apply (Nat.ofDigitChars 10 digits 0)

/-- A number with blanks around it, or with none. -/
def Denotes (text : List Char) (n : Int) : Prop :=
  ∃ before numeral after, text = before ++ numeral ++ after ∧ IsNumeral numeral n ∧
    (∀ c ∈ before, isBlank c = true) ∧ ∀ c ∈ after, isBlank c = true

variable {text digits numeral before after : List Char} {n : Int}

/-! ### Digits and signs -/

theorem isDigit_eq (c : Char) : isDigit c = c.isDigit := rfl

theorem ofDigits_eq (digits : List Char) : ofDigits digits = Nat.ofDigitChars 10 digits 0 := by
  rw [Nat.ofDigitChars_eq_foldl, ofDigits]
  simp only [Nat.mul_comm 10]
  rfl

theorem natural?_eq_some_iff {k : Nat} : natural? digits = some k ↔
    digits ≠ [] ∧ (∀ c ∈ digits, c.isDigit = true) ∧ k = Nat.ofDigitChars 10 digits 0 := by
  unfold natural?
  simp only [List.all_eq_true, isDigit_eq, ofDigits_eq]
  constructor
  · intro read
    split at read
    · next proper => exact ⟨proper.1, proper.2, (Option.some.inj read).symm⟩
    · cases read
  · rintro ⟨nonempty, all, rfl⟩
    rw [if_pos ⟨nonempty, all⟩]

/-- No sign is in front of the text. -/
def Unsigned (text : List Char) : Prop := text.head? ≠ some '+' ∧ text.head? ≠ some '-'

theorem integer?_signed {sign : Sign} (rest : sign = .absent → Unsigned digits) :
    integer? (sign.text ++ digits) = (natural? digits).map sign.apply := by
  cases sign with
  | plus =>
    rw [Sign.text, List.singleton_append, integer?]
    cases natural? digits <;> rfl
  | minus =>
    rw [Sign.text, List.singleton_append, integer?]
    cases natural? digits <;> rfl
  | absent =>
    obtain ⟨noPlus, noMinus⟩ := rest rfl
    rw [Sign.text, List.nil_append]
    unfold integer?
    split
    · simp at noPlus
    · simp at noMinus
    · cases natural? digits <;> rfl

theorem exists_sign (text : List Char) :
    ∃ (sign : Sign) (rest : List Char), text = sign.text ++ rest ∧ (sign = .absent → Unsigned rest) := by
  by_cases plus : text.head? = some '+'
  · obtain ⟨rest, rfl⟩ := List.head?_eq_some_iff.mp plus
    exact ⟨.plus, rest, rfl, by simp⟩
  · by_cases minus : text.head? = some '-'
    · obtain ⟨rest, rfl⟩ := List.head?_eq_some_iff.mp minus
      exact ⟨.minus, rest, rfl, by simp⟩
    · exact ⟨.absent, text, rfl, fun _ => ⟨plus, minus⟩⟩

theorem unsigned_of_digits (all : ∀ c ∈ digits, c.isDigit = true) : Unsigned digits := by
  constructor
  · intro first
    exact absurd (all '+' (List.mem_of_head? first)) (by decide)
  · intro first
    exact absurd (all '-' (List.mem_of_head? first)) (by decide)

theorem integer?_eq_some_iff : integer? text = some n ↔ IsNumeral text n := by
  constructor
  · intro read
    obtain ⟨sign, digits, rfl, rest⟩ := exists_sign text
    rw [integer?_signed rest] at read
    obtain ⟨k, natural, rfl⟩ := Option.map_eq_some_iff.mp read
    obtain ⟨nonempty, all, rfl⟩ := natural?_eq_some_iff.mp natural
    exact ⟨sign, digits, rfl, nonempty, all, rfl⟩
  · rintro ⟨sign, digits, rfl, nonempty, all, rfl⟩
    rw [integer?_signed fun _ => unsigned_of_digits all,
      natural?_eq_some_iff.mpr ⟨nonempty, all, rfl⟩, Option.map_some]

/-- Whole numbers are written as numerals. -/
theorem isNumeral_toString (n : Int) : IsNumeral (toString n).toList n := by
  have digits (k : Nat) : ∀ c ∈ Nat.toDigits 10 k, c.isDigit = true :=
    fun c member => Nat.isDigit_of_mem_toDigits (by decide) (by decide) member
  rw [Int.toString_eq_repr, Int.repr_eq_if]
  by_cases natural : 0 ≤ n
  · rw [if_pos natural, Nat.toList_repr]
    refine ⟨.absent, Nat.toDigits 10 n.toNat, rfl, Nat.toDigits_ne_nil, digits _, ?_⟩
    rw [Nat.ofDigitChars_ten_toDigits]
    exact (Int.toNat_of_nonneg natural).symm
  · rw [if_neg natural, String.toList_append, Nat.toList_repr]
    refine ⟨.minus, Nat.toDigits 10 (-n).toNat, rfl, Nat.toDigits_ne_nil, digits _, ?_⟩
    rw [Nat.ofDigitChars_ten_toDigits, Sign.apply]
    omega

/-! ### Blanks -/

theorem trimStart_append (blank : ∀ c ∈ before, isBlank c = true)
    (dark : ∀ c ∈ text.head?, isBlank c = false) : trimStart (before ++ text) = text := by
  rw [trimStart, List.dropWhile_append_of_pos blank]
  cases text with
  | nil => rfl
  | cons c rest => rw [List.dropWhile_cons_of_neg (by simpa using dark)]

theorem trimEnd_append (blank : ∀ c ∈ after, isBlank c = true)
    (dark : ∀ c ∈ text.getLast?, isBlank c = false) : trimEnd (text ++ after) = text := by
  have backwards : trimStart (after.reverse ++ text.reverse) = text.reverse :=
    trimStart_append (by simpa using blank) (by simpa using dark)
  rw [trimEnd, List.reverse_append, backwards, List.reverse_reverse]

theorem eq_trimStart (text : List Char) :
    ∃ before, text = before ++ trimStart text ∧ ∀ c ∈ before, isBlank c = true := by
  refine ⟨text.takeWhile isBlank, (List.takeWhile_append_dropWhile).symm, ?_⟩
  exact List.all_eq_true.mp List.all_takeWhile

theorem eq_trimEnd (text : List Char) :
    ∃ after, text = trimEnd text ++ after ∧ ∀ c ∈ after, isBlank c = true := by
  obtain ⟨blanks, whole, blank⟩ := eq_trimStart text.reverse
  refine ⟨blanks.reverse, ?_, by simpa using blank⟩
  rw [trimEnd, ← List.reverse_append, ← whole, List.reverse_reverse]

theorem isBlank_of_isDigit {c : Char} (digit : c.isDigit = true) : isBlank c = false := by
  simp only [Char.isDigit, Bool.and_eq_true, decide_eq_true_eq, ge_iff_le, UInt32.le_iff_toNat_le] at digit
  obtain ⟨zero, nine⟩ := digit
  change 48 ≤ c.toNat at zero
  change c.toNat ≤ 57 at nine
  simp [isBlank]
  omega

theorem IsNumeral.ne_nil (numeral : IsNumeral text n) : text ≠ [] := by
  obtain ⟨sign, digits, rfl, nonempty, _⟩ := numeral
  exact List.append_ne_nil_of_right_ne_nil _ nonempty

theorem IsNumeral.head?_dark (numeral : IsNumeral text n) : ∀ c ∈ text.head?, isBlank c = false := by
  obtain ⟨sign, digits, rfl, nonempty, all, _⟩ := numeral
  intro c first
  cases sign with
  | absent => exact isBlank_of_isDigit (all c (List.mem_of_head? first))
  | plus =>
    cases first
    decide
  | minus =>
    cases first
    decide

theorem IsNumeral.getLast?_dark (numeral : IsNumeral text n) :
    ∀ c ∈ text.getLast?, isBlank c = false := by
  obtain ⟨sign, digits, rfl, nonempty, all, _⟩ := numeral
  intro c last
  rw [List.getLast?_append, List.getLast?_eq_some_getLast nonempty, Option.some_or] at last
  cases last
  exact isBlank_of_isDigit (all _ (List.getLast_mem nonempty))

theorem denotes_iff : Denotes text n ↔ IsNumeral (trim text) n := by
  constructor
  · rintro ⟨before, numeral, after, rfl, isNumeral, blankBefore, blankAfter⟩
    -- Trimming stops at the numeral on both sides, as it neither begins nor ends with a blank.
    have first : ∀ c ∈ (numeral ++ after).head?, isBlank c = false := by
      rw [List.head?_append, List.head?_eq_some_head isNumeral.ne_nil, Option.some_or,
        ← List.head?_eq_some_head isNumeral.ne_nil]
      exact isNumeral.head?_dark
    rw [List.append_assoc, trim, trimStart_append blankBefore first,
      trimEnd_append blankAfter isNumeral.getLast?_dark]
    exact isNumeral
  · intro isNumeral
    obtain ⟨before, parted, blankBefore⟩ := eq_trimStart text
    obtain ⟨after, trimmed, blankAfter⟩ := eq_trimEnd (trimStart text)
    refine ⟨before, trim text, after, ?_, isNumeral, blankBefore, blankAfter⟩
    rw [List.append_assoc, trim, ← trimmed]
    exact parted

theorem Denotes.free (denotes : Denotes text n) : ',' ∉ text := by
  obtain ⟨before, numeral, after, rfl, ⟨sign, digits, rfl, _, all, _⟩, blankBefore, blankAfter⟩ :=
    denotes
  have noSign : ',' ∉ sign.text := by
    cases sign <;> decide
  simp only [List.mem_append, not_or]
  refine ⟨⟨fun member => ?_, noSign, fun member => ?_⟩, fun member => ?_⟩
  · exact absurd (blankBefore _ member) (by decide)
  · exact absurd (all _ member) (by decide)
  · exact absurd (blankAfter _ member) (by decide)

/-- What a text denotes is at most one number, as it is what reading makes of it. -/
theorem denotes_iff_read : Denotes text n ↔ integer? (trim text) = some n := by
  rw [denotes_iff, integer?_eq_some_iff]

end Blueprint.Text
