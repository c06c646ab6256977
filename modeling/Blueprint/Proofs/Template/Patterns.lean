import Blueprint.Proofs.Template.Lexemes

/-!
Each kind of token has a pattern, and a text is cut by the longest match: again and again the longest
beginning of the rest that is spelled as some pattern says becomes a token. Where no pattern matches,
a character is not recognised. The scan of a text is this cut, and it recognises every character.
-/

namespace Blueprint.Template

/-! ### Patterns -/

/-- A part of a pattern: letters as they stand, or a run of characters of a class. -/
inductive Part where
  | letters (text : List Char)
  | run (least : Nat) (p : Char → Bool)

def Part.Spells : Part → List Char → Prop
  | letters text, slice => slice = text
  | run least p, slice => least ≤ slice.length ∧ ∀ c ∈ slice, p c = true

/-- Parts one after the other. -/
abbrev Pattern := List Part

def Pattern.Spells : Pattern → List Char → Prop
  | [], slice => slice = []
  | part :: parts, slice =>
    ∃ front rest, slice = front ++ rest ∧ part.Spells front ∧ Pattern.Spells parts rest

theorem Pattern.spells_letters_iff {text slice : List Char} {parts : Pattern} :
    Pattern.Spells (.letters text :: parts) slice ↔
      ∃ rest, slice = text ++ rest ∧ parts.Spells rest := by
  constructor
  · rintro ⟨front, rest, rfl, rfl, more⟩
    exact ⟨rest, rfl, more⟩
  · rintro ⟨rest, rfl, more⟩
    exact ⟨text, rest, rfl, rfl, more⟩

theorem Pattern.spells_run_iff {least : Nat} {p : Char → Bool} {slice : List Char} :
    Pattern.Spells [.run least p] slice ↔ least ≤ slice.length ∧ ∀ c ∈ slice, p c = true := by
  constructor
  · rintro ⟨front, rest, rfl, spelled, rfl⟩
    rwa [List.append_nil]
  · intro spelled
    exact ⟨slice, [], (List.append_nil slice).symm, spelled, rfl⟩

namespace Token

/-- The pattern of the kind of a token. -/
def pattern : Token → Pattern
  | escaped => [.letters ['\\', '$', '(']]
  | reference _ => [.letters ['$', '('], .run 1 isKeyChar, .letters [')']]
  | unclosed _ => [.letters ['$', '('], .run 0 isKeyChar]
  | dollar => [.letters ['$']]
  | backslash => [.letters ['\\']]
  | text _ => [.run 1 isPlain]

/-- A token stands for characters that its pattern spells. -/
def Spelled (token : Token) : Prop := token.pattern.Spells token.slice

theorem spelled_iff_wellFormed (token : Token) : token.Spelled ↔ token.WellFormed := by
  unfold Spelled
  cases token with
  | escaped => exact ⟨fun _ => trivial, fun _ => Pattern.spells_letters_iff.mpr ⟨[], rfl, rfl⟩⟩
  | dollar => exact ⟨fun _ => trivial, fun _ => Pattern.spells_letters_iff.mpr ⟨[], rfl, rfl⟩⟩
  | backslash => exact ⟨fun _ => trivial, fun _ => Pattern.spells_letters_iff.mpr ⟨[], rfl, rfl⟩⟩
  | text content =>
    rw [pattern, Pattern.spells_run_iff]
    exact and_congr List.length_pos_iff .rfl
  | unclosed key =>
    rw [pattern, Pattern.spells_letters_iff]
    constructor
    · rintro ⟨rest, same, spelled⟩
      cases same
      exact (Pattern.spells_run_iff.mp spelled).2
    · intro keyChars
      exact ⟨key.toList, rfl, Pattern.spells_run_iff.mpr ⟨Nat.zero_le _, keyChars⟩⟩
  | reference key =>
    rw [pattern, Pattern.spells_letters_iff]
    constructor
    · rintro ⟨rest, same, name, closing, rfl, ⟨long, keyChars⟩, closed⟩
      obtain ⟨_, rfl, rfl⟩ := Pattern.spells_letters_iff.mp closed
      have whole : key.toList = name := by simpa [slice] using same
      rw [WellFormed, whole]
      exact ⟨List.length_pos_iff.mp long, keyChars⟩
    · intro isName
      exact ⟨key.toList ++ [')'], rfl, key.toList, [')'], rfl,
        ⟨List.length_pos_iff.mpr isName.nonempty, isName.keyChars⟩,
        Pattern.spells_letters_iff.mpr ⟨[], rfl, rfl⟩⟩

/-! ### The longest match -/

/-- No other token is spelled by a longer beginning of a text. -/
structure Longest (token : Token) (text : List Char) : Prop where
  spelled : token.Spelled
  begins : token.slice <+: text
  longest : ∀ other : Token, other.Spelled → other.slice <+: text →
    other.slice.length ≤ token.slice.length

/-- A token on its own is scanned as this token. -/
theorem scan_slice {token : Token} (wellFormed : token.WellFormed) : scan token.slice = [token] := by
  cases token with
  | escaped => exact (scan_escaped []).trans (by rw [scan])
  | dollar =>
    have lone : ([] : List Char).head? ≠ some '(' := by decide
    exact (scan_dollar lone).trans (by rw [scan])
  | backslash =>
    have free : ∀ after : List Char, [] ≠ '$' :: '(' :: after := by simp
    exact (scan_backslash free).trans (by rw [scan])
  | reference key => rw [slice, scan_reference wellFormed, String.ofList_toList, scan]
  | unclosed key =>
    have ends : Stops isKeyChar [] := by simp [Stops]
    have scanned := scan_unclosed wellFormed ends (.inr (by simp))
    rw [List.append_nil, String.ofList_toList, scan] at scanned
    exact scanned
  | text content =>
    obtain ⟨nonempty, plain⟩ := wellFormed
    obtain ⟨c, rest, chars⟩ := List.exists_cons_of_ne_nil nonempty
    rw [chars, List.forall_mem_cons] at plain
    rw [slice, chars, scan_plain plain.1, List.takeWhile_eq_self_iff.mpr plain.2,
      List.dropWhile_eq_nil_iff.mpr plain.2, ← chars, String.ofList_toList, scan]

/-- No characters are spelled by two patterns. -/
theorem eq_of_slice {token other : Token} (wellFormed : token.WellFormed)
    (also : other.WellFormed) (same : token.slice = other.slice) : token = other := by
  have scanned := scan_slice wellFormed
  rw [same, scan_slice also] at scanned
  exact (List.singleton_inj.mp scanned).symm

theorem Longest.unique {token other : Token} {text : List Char} (longest : token.Longest text)
    (also : other.Longest text) : token = other := by
  refine eq_of_slice ((spelled_iff_wellFormed token).mp longest.spelled)
    ((spelled_iff_wellFormed other).mp also.spelled) ?_
  have lengths := Nat.le_antisymm (also.longest token longest.spelled longest.begins)
    (longest.longest other also.spelled also.begins)
  exact (List.prefix_of_prefix_length_le longest.begins also.begins lengths.le).eq_of_length lengths

/-- A run of characters of a class does not reach over a character of another class. -/
theorem run_length_le {p : Char → Bool} {run name after : List Char} (inside : ∀ c ∈ run, p c = true)
    (stops : Stops p after) (begins : run <+: name ++ after) : run.length ≤ name.length := by
  have taken : run <+: name.takeWhile p := by
    rw [← takeWhile_append_stops name stops]
    obtain ⟨rest, whole⟩ := begins
    rw [← whole, List.takeWhile_append_of_pos inside]
    exact List.prefix_append _ _
  exact taken.length_le.trans (List.takeWhile_sublist p).length_le

/-- An opening takes all key characters behind it. -/
theorem length_le_opened {key : List Char} (keyChars : ∀ c ∈ key, isKeyChar c = true)
    (after : List Char) : key.length + 2 ≤ (opened (key ++ after)).1.slice.length := by
  have begins : key <+: key ++ after := List.prefix_append _ _
  rcases opened_cases (key ++ after) with ⟨name, behind, _, inner, taken⟩ |
    ⟨name, behind, _, stops, _, inner, taken⟩
  · have closing : Stops isKeyChar (')' :: behind) := by
      rintro _ ⟨⟩
      decide
    rw [inner] at begins
    have shorter := run_length_le keyChars closing begins
    rw [taken]
    simp only [slice, List.length_cons, List.length_append, String.toList_ofList]
    omega
  · rw [inner] at begins
    have shorter := run_length_le keyChars stops begins
    rw [taken]
    simp only [slice, List.length_cons, String.toList_ofList]
    omega

theorem wellFormed_first (c : Char) (rest : List Char) : (first c rest).1.WellFormed := by
  have member : (first c rest).1 ∈ scan (c :: rest) := by
    rw [scan]
    exact List.mem_cons_self
  exact wellFormed_of_mem_scan member

/-- No token that a text begins with is longer than the one that is taken first. -/
theorem length_le_first {c : Char} {rest : List Char} {other : Token}
    (wellFormed : other.WellFormed) (begins : other.slice <+: c :: rest) :
    other.slice.length ≤ (first c rest).1.slice.length := by
  have positive : 1 ≤ (first c rest).1.slice.length :=
    List.length_pos_iff.mpr (slice_ne_nil (wellFormed_first c rest))
  obtain ⟨after, whole⟩ := begins
  cases other with
  | dollar => exact positive
  | backslash => exact positive
  | escaped =>
    cases whole
    exact Nat.le_refl 3
  | reference key =>
    rw [slice, List.cons_append, List.cons_append, List.append_assoc] at whole
    cases whole
    have taken : first '$' ('(' :: (key.toList ++ ([')'] ++ after))) = (.reference key, after) :=
      (first_opening _).trans (by
        rw [List.singleton_append, opened_name wellFormed, String.ofList_toList])
    rw [taken]
  | unclosed key =>
    rw [slice, List.cons_append, List.cons_append] at whole
    cases whole
    rw [first_opening]
    exact length_le_opened wellFormed after
  | text content =>
    obtain ⟨nonempty, plain⟩ := wellFormed
    obtain ⟨d, tail, chars⟩ := List.exists_cons_of_ne_nil nonempty
    rw [slice, chars, List.cons_append] at whole
    rw [chars, List.forall_mem_cons] at plain
    cases whole
    rw [first_plain plain.1, slice, slice, chars, String.toList_ofList,
      List.takeWhile_append_of_pos plain.2]
    simp

/-- The scan takes the longest match first. -/
theorem first_longest (c : Char) (rest : List Char) : (first c rest).1.Longest (c :: rest) where
  spelled := (spelled_iff_wellFormed _).mpr (wellFormed_first c rest)
  begins := ⟨_, slice_first c rest⟩
  longest other spelled := length_le_first ((spelled_iff_wellFormed other).mp spelled)

/-! ### Cutting by the longest match -/

/-- A text is cut into tokens and characters that are not recognised. -/
inductive Lexed : List Char → List (Option Token) → Prop
  | nil : Lexed [] []
  | recognised {token : Token} {rest : List Char} {tokens : List (Option Token)}
    (longest : token.Longest (token.slice ++ rest)) (more : Lexed rest tokens) :
    Lexed (token.slice ++ rest) (some token :: tokens)
  | unrecognised {c : Char} {rest : List Char} {tokens : List (Option Token)}
    (nothing : ∀ token : Token, token.Spelled → ¬token.slice <+: c :: rest)
    (more : Lexed rest tokens) : Lexed (c :: rest) (none :: tokens)

/-- Every text is cut in one way only, into the tokens of its scan. -/
theorem lexed_iff {text : List Char} {tokens : List (Option Token)} :
    Lexed text tokens ↔ tokens = (scan text).map some := by
  constructor
  · intro lexed
    induction lexed with
    | nil => rw [scan]; rfl
    | @recognised token rest tokens longest more ih =>
      obtain ⟨c, tail, chars⟩ := List.exists_cons_of_ne_nil
        (slice_ne_nil ((spelled_iff_wellFormed token).mp longest.spelled))
      have whole : token.slice ++ rest = c :: (tail ++ rest) := by rw [chars, List.cons_append]
      rw [whole] at longest ⊢
      have same := longest.unique (first_longest c (tail ++ rest))
      have behind : (first c (tail ++ rest)).2 = rest := by
        have cut := slice_first c (tail ++ rest)
        rw [← same, ← whole] at cut
        exact List.append_cancel_left cut
      rw [scan, ← same, behind, List.map_cons, ih]
    | @unrecognised c rest tokens nothing more ih =>
      have here := first_longest c rest
      exact absurd here.begins (nothing _ here.spelled)
  · rintro rfl
    fun_induction scan text with
    | case1 => exact .nil
    | case2 c rest ih =>
      have longest := first_longest c rest
      rw [← slice_first c rest] at longest ⊢
      exact .recognised longest ih

end Token

/-- The tokens of a text are those of the longest matches, and every character is recognised. -/
theorem lexed_lex_iff (text : String) (tokens : List (Option Token)) :
    Token.Lexed text.toList tokens ↔
      tokens = (lex text).map fun lexeme => some lexeme.token := by
  have recognised : (lex text).map (fun lexeme => some lexeme.token) =
      (Token.scan text.toList).map some := by
    rw [← tokens_placed 0 (Token.scan text.toList), List.map_map]
    rfl
  rw [Token.lexed_iff, recognised]

end Blueprint.Template
