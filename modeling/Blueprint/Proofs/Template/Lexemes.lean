import Blueprint.Proofs.Template.Occurrences

/-!
Where the tokens of a text stand. They cover the text from its first byte to its last, and every
place of a token is determined by the characters around it: a reference stands wherever one is
written without a backslash in front of it, an escape wherever one is written, and an opening that
belongs to neither is left unclosed up to the end of the name behind it.
-/

namespace Blueprint.Template

open Token

variable {text before : List Char} {token other : Token}

/-! ### Bytes -/

def byteSize (chars : List Char) : Nat := (String.ofList chars).utf8ByteSize

theorem byteSize_append (first second : List Char) :
    byteSize (first ++ second) = byteSize first + byteSize second := by
  simp [byteSize]

theorem byteSize_pos {chars : List Char} (some : chars ≠ []) : 0 < byteSize chars := by
  simp [byteSize, Nat.pos_iff_ne_zero, some]

theorem mem_placed_iff {lexeme : Lexeme} {tokens : List Token} {start : Nat} :
    lexeme ∈ Lexeme.placed start tokens ↔ ∃ front back, tokens = front ++ lexeme.token :: back ∧
      lexeme.start = start + byteSize (front.flatMap slice) ∧
      lexeme.stop = lexeme.start + byteSize lexeme.token.slice := by
  induction tokens generalizing start with
  | nil => simp [Lexeme.placed]
  | cons token rest ih =>
    rw [Lexeme.placed, List.mem_cons, ih]
    constructor
    · rintro (rfl | ⟨front, back, rfl, started, stopped⟩)
      · exact ⟨[], rest, rfl, rfl, rfl⟩
      · refine ⟨token :: front, back, rfl, ?_, stopped⟩
        rw [started, List.flatMap_cons, byteSize_append, ← Nat.add_assoc]
        rfl
    · rintro ⟨front, back, split, started, stopped⟩
      cases front with
      | nil =>
        left
        obtain ⟨rfl, -⟩ := List.cons.inj split
        obtain ⟨token, from_, upTo⟩ := lexeme
        obtain rfl : from_ = start := started
        obtain rfl : upTo = from_ + byteSize token.slice := stopped
        rfl
      | cons first front =>
        right
        obtain ⟨rfl, rfl⟩ := List.cons.inj split
        refine ⟨front, back, rfl, ?_, stopped⟩
        rw [started, List.flatMap_cons, byteSize_append, ← Nat.add_assoc]
        rfl

/-! ### A token and what stands before it -/

/-- Behind a beginning of the text stands a token. -/
def TokenAt (text before : List Char) (token : Token) : Prop :=
  ∃ front back, scan text = front ++ token :: back ∧ front.flatMap slice = before

theorem mem_lex_iff {text : String} {start stop : Nat} : ⟨token, start, stop⟩ ∈ lex text ↔
    ∃ before, TokenAt text.toList before token ∧ start = byteSize before ∧
      stop = byteSize before + byteSize token.slice := by
  rw [lex, mem_placed_iff]
  simp only [Nat.zero_add]
  constructor
  · rintro ⟨front, back, split, rfl, rfl⟩
    exact ⟨_, ⟨front, back, split, rfl⟩, rfl, rfl⟩
  · rintro ⟨_, ⟨front, back, split, rfl⟩, rfl, rfl⟩
    exact ⟨front, back, split, rfl, rfl⟩

/-- The tokens behind others are those of the text behind them. -/
theorem scan_behind {front back : List Token} (split : scan text = front ++ back) :
    ∃ rest, text = front.flatMap slice ++ rest ∧ scan rest = back := by
  induction front generalizing text with
  | nil => exact ⟨text, rfl, split⟩
  | cons token front ih =>
    cases text with
    | nil => simp [scan] at split
    | cons c tail =>
      rw [scan] at split
      obtain ⟨here, behind⟩ := List.cons.inj split
      obtain ⟨rest, left, scanned⟩ := ih behind
      refine ⟨rest, ?_, scanned⟩
      rw [← slice_first c tail, here, left, List.flatMap_cons, List.append_assoc]

theorem TokenAt.whole (here : TokenAt text before token) : before ++ token.slice <+: text := by
  obtain ⟨front, back, split, rfl⟩ := here
  refine ⟨back.flatMap slice, ?_⟩
  rw [← slices_scan text, split, List.flatMap_append, List.flatMap_cons, List.append_assoc]

theorem TokenAt.wellFormed (here : TokenAt text before token) : token.WellFormed := by
  obtain ⟨front, back, split, -⟩ := here
  have member : token ∈ scan text := by simp [split]
  exact wellFormed_of_mem_scan member

theorem slice_ne_nil (wellFormed : token.WellFormed) : token.slice ≠ [] := by
  cases token with
  | text content => exact wellFormed.1
  | _ => simp [slice]

/-- A token that begins inside another one is that one. -/
theorem TokenAt.unique {inside : List Char} (here : TokenAt text before token)
    (there : TokenAt text inside other) (behind : byteSize before ≤ byteSize inside)
    (within : byteSize inside < byteSize before + byteSize token.slice) :
    inside = before ∧ other = token := by
  have some := byteSize_pos (slice_ne_nil there.wellFormed)
  obtain ⟨front, back, split, rfl⟩ := here
  obtain ⟨early, late, cut, rfl⟩ := there
  rcases List.append_eq_append_iff.mp (split.symm.trans cut) with
    ⟨more, rfl, left⟩ | ⟨more, rfl, left⟩
  · cases more with
    | nil => exact ⟨by simp, ((List.cons.inj left).1).symm⟩
    | cons first more =>
      obtain ⟨rfl, -⟩ := List.cons.inj left
      simp only [List.flatMap_append, List.flatMap_cons, byteSize_append] at within
      omega
  · cases more with
    | nil => exact ⟨by simp, (List.cons.inj left).1⟩
    | cons first more =>
      obtain ⟨rfl, -⟩ := List.cons.inj left
      simp only [List.flatMap_append, List.flatMap_cons, byteSize_append] at behind
      omega

/-- A seam cuts the tokens of a text. -/
theorem tokenAt_of_seam {rest : List Char} {back : List Token} (seam : Seam before rest)
    (scanned : scan rest = token :: back) : TokenAt (before ++ rest) before token := by
  refine ⟨scan before, back, ?_, slices_scan before⟩
  rw [scan_append seam, scanned]

/-! ### References, escapes and what is left open -/

theorem tokenAt_reference_iff {key : String} :
    TokenAt text before (.reference key) ↔ RefersAt text before key := by
  constructor
  · intro here
    refine ⟨here.wellFormed, here.whole, ?_⟩
    obtain ⟨front, back, split, rfl⟩ := here
    exact unescaped_of_scan rfl split
  · intro refers
    obtain ⟨after, split⟩ := refers.scan
    exact ⟨scan before, scan after, split, slices_scan before⟩

theorem tokenAt_escaped_iff :
    TokenAt text before .escaped ↔ before ++ ['\\', '$', '('] <+: text := by
  constructor
  · exact TokenAt.whole
  · rintro ⟨after, rfl⟩
    rw [List.append_assoc]
    exact tokenAt_of_seam (seam_backslash before _) (scan_escaped after)

/-- Behind a beginning of the text, which does not end in a backslash, a reference is opened. -/
structure OpensAt (text before : List Char) : Prop where
  here : before ++ ['$', '('] <+: text
  unescaped : before.getLast? ≠ some '\\'

theorem OpensAt.cases (opens : OpensAt text before) :
    (∃ key, TokenAt text before (.reference key)) ∨ ∃ key, TokenAt text before (.unclosed key) := by
  obtain ⟨⟨inner, rfl⟩, unescaped⟩ := opens
  have seam := seam_dollar unescaped ('(' :: inner)
  rw [List.append_assoc]
  rcases opened_cases inner with ⟨name, after, isName, rfl, -⟩ |
    ⟨name, after, keyChars, stops, open_ended, rfl, -⟩
  · have scanned := scan_reference isName after
    exact .inl ⟨_, tokenAt_of_seam seam scanned⟩
  · have scanned := scan_unclosed keyChars stops open_ended
    exact .inr ⟨_, tokenAt_of_seam seam scanned⟩

/-! ### Where a token ends -/

/-- The characters behind a token do not go on with it. -/
def Token.Ends : Token → List Char → Prop
  | .unclosed _, after => Stops isKeyChar after
  | .text _, after => Stops isPlain after
  | _, _ => True

theorem ends_first (c : Char) (rest : List Char) : (first c rest).1.Ends (first c rest).2 := by
  cases beginning (c :: rest) with
  | escaped after => trivial
  | backslash free =>
    rw [first_backslash free]
    trivial
  | reference isName after =>
    rw [first_opening, opened_name isName]
    trivial
  | unclosed keyChars stops open_ended =>
    rw [first_opening, opened_unclosed keyChars stops open_ended]
    exact stops
  | dollar lone =>
    rw [first_dollar lone]
    trivial
  | plain plain rest =>
    rw [first_plain plain]
    exact stops_dropWhile isPlain rest

theorem ends_of_scan {back : List Token} (scanned : scan text = token :: back) :
    ∃ after, text = token.slice ++ after ∧ scan after = back ∧ token.Ends after := by
  cases text with
  | nil => simp [scan] at scanned
  | cons c rest =>
    rw [scan] at scanned
    obtain ⟨rfl, rfl⟩ := List.cons.inj scanned
    exact ⟨_, (slice_first c rest).symm, rfl, ends_first c rest⟩

theorem TokenAt.ends (here : TokenAt text before token) :
    ∃ after, text = before ++ token.slice ++ after ∧ token.Ends after := by
  obtain ⟨front, back, split, rfl⟩ := here
  obtain ⟨rest, rfl, scanned⟩ := scan_behind split
  obtain ⟨after, rfl, -, ends⟩ := ends_of_scan scanned
  exact ⟨after, (List.append_assoc _ _ _).symm, ends⟩

/-- Plain characters next to each other belong to one token. -/
theorem scan_ne_texts {front back : List Token} {first second : String} :
    scan text ≠ front ++ .text first :: .text second :: back := by
  intro split
  obtain ⟨rest, -, scanned⟩ := scan_behind split
  obtain ⟨after, -, behind, ends⟩ := ends_of_scan scanned
  have wellFormed : (Token.text second).WellFormed := wellFormed_of_mem_scan (by rw [behind]; simp)
  obtain ⟨last, shape, -⟩ := ends_of_scan behind
  obtain ⟨c, tail, content⟩ := List.exists_cons_of_ne_nil wellFormed.1
  have plain : isPlain c = true := wellFormed.2 c (by simp [content])
  have head : after.head? = some c := by simp [shape, slice, content]
  simp [ends c head] at plain

/-! ### The lexemes of a text -/

/-- Lexemes one behind the other, none of them empty, from one byte up to another. -/
inductive Covers : Nat → List Lexeme → Nat → Prop where
  | nothing (place : Nat) : Covers place [] place
  | next {token : Token} {start stop last : Nat} {rest : List Lexeme} (some : start < stop)
    (behind : Covers stop rest last) : Covers start (⟨token, start, stop⟩ :: rest) last

theorem covers_placed {tokens : List Token} (wellFormed : ∀ token ∈ tokens, token.WellFormed)
    (start : Nat) : Covers start (Lexeme.placed start tokens)
      (start + byteSize (tokens.flatMap slice)) := by
  induction tokens generalizing start with
  | nil => exact .nothing start
  | cons token rest ih =>
    obtain ⟨here, later⟩ := List.forall_mem_cons.mp wellFormed
    have some := byteSize_pos (slice_ne_nil here)
    have behind := ih later (start + byteSize token.slice)
    rw [Nat.add_assoc, ← byteSize_append, ← List.flatMap_cons] at behind
    exact .next (Nat.lt_add_of_pos_right some) behind

theorem tokens_placed (start : Nat) (tokens : List Token) :
    (Lexeme.placed start tokens).map Lexeme.token = tokens := by
  induction tokens generalizing start with
  | nil => rfl
  | cons token rest ih => rw [Lexeme.placed, List.map_cons, ih]

/-- From byte `start` up to byte `stop`, both between two characters, stands a piece of the text. -/
structure Stands (text : String) (start stop : Nat) (before piece after : String) : Prop where
  whole : text = before ++ piece ++ after
  start_eq : start = before.utf8ByteSize
  stop_eq : stop = (before ++ piece).utf8ByteSize

theorem stands_ofList {text : String} {front piece back : List Char}
    (whole : text.toList = front ++ piece ++ back) :
    Stands text (byteSize front) (byteSize front + byteSize piece) (.ofList front) (.ofList piece)
      (.ofList back) := by
  refine ⟨?_, rfl, by simp [byteSize]⟩
  rw [← String.ofList_toList (s := text), whole, String.ofList_append, String.ofList_append]

theorem Stands.chars {text front piece back : String} {start stop : Nat}
    (stands : Stands text start stop front piece back) :
    text.toList = front.toList ++ piece.toList ++ back.toList ∧ start = byteSize front.toList ∧
      stop = byteSize front.toList + byteSize piece.toList := by
  refine ⟨?_, ?_, ?_⟩
  · simp [stands.whole]
  · simp [stands.start_eq, byteSize]
  · simp [stands.stop_eq, byteSize]

section Lexemes

variable {text : String} {start stop : Nat} {key : String}

theorem mem_lex_iff_stands : ⟨token, start, stop⟩ ∈ lex text ↔
    ∃ before after, Stands text start stop before (.ofList token.slice) after ∧
      TokenAt text.toList before.toList token := by
  rw [mem_lex_iff]
  constructor
  · rintro ⟨before, here, rfl, rfl⟩
    obtain ⟨after, whole⟩ := here.whole
    exact ⟨_, _, stands_ofList whole.symm, by rwa [String.toList_ofList]⟩
  · rintro ⟨before, after, stands, here⟩
    obtain ⟨-, started, stopped⟩ := stands.chars
    exact ⟨before.toList, here, started, by rwa [String.toList_ofList] at stopped⟩

theorem mem_reference_iff : ⟨.reference key, start, stop⟩ ∈ lex text ↔
    ∃ before after, Stands text start stop before ("$(" ++ key ++ ")") after ∧
      IsName key.toList ∧ before.toList.getLast? ≠ some '\\' := by
  have written : String.ofList (Token.reference key).slice = "$(" ++ key ++ ")" := by
    rw [← String.toList_inj]
    simp [slice]
  simp only [mem_lex_iff_stands, written, tokenAt_reference_iff]
  refine exists_congr fun before => exists_congr fun after => and_congr_right fun stands => ?_
  constructor
  · exact fun refers => ⟨refers.isName, refers.unescaped⟩
  · rintro ⟨isName, unescaped⟩
    refine ⟨isName, ⟨after.toList, ?_⟩, unescaped⟩
    simp [stands.chars.1, Piece.written]

theorem mem_escaped_iff : ⟨.escaped, start, stop⟩ ∈ lex text ↔
    ∃ before after, Stands text start stop before "\\$(" after := by
  have written : String.ofList Token.escaped.slice = "\\$(" := rfl
  simp only [mem_lex_iff_stands, written, tokenAt_escaped_iff]
  refine exists_congr fun before => exists_congr fun after => and_iff_left_of_imp fun stands => ?_
  exact ⟨after.toList, by simp [stands.chars.1]⟩

/-- An opening stands at a byte of the text. -/
def OpenedAt (text : String) (start : Nat) : Prop :=
  ∃ before after, Stands text start (start + 2) before "$(" after

theorem openedAt_of_mem {inner : List Char} (opens : token.slice = '$' :: '(' :: inner)
    (member : ⟨token, start, stop⟩ ∈ lex text) : OpenedAt text start := by
  obtain ⟨before, here, rfl, -⟩ := mem_lex_iff.mp member
  obtain ⟨after, whole⟩ := here.whole
  rw [opens] at whole
  have opening : text.toList = before ++ ['$', '('] ++ (inner ++ after) := by simp [← whole]
  exact ⟨_, _, stands_ofList opening⟩

/-- A token that begins inside another one is that one. -/
theorem token_eq_of_mem {first last : Nat} (here : ⟨token, first, last⟩ ∈ lex text)
    (there : ⟨other, start, stop⟩ ∈ lex text) (behind : first ≤ start) (within : start < last) :
    other = token := by
  obtain ⟨before, atBefore, rfl, rfl⟩ := mem_lex_iff.mp here
  obtain ⟨inside, atInside, rfl, rfl⟩ := mem_lex_iff.mp there
  exact (atBefore.unique atInside behind within).2

theorem lt_of_mem (member : ⟨token, start, stop⟩ ∈ lex text) : start < stop := by
  obtain ⟨before, here, rfl, rfl⟩ := mem_lex_iff.mp member
  exact Nat.lt_add_of_pos_right (byteSize_pos (slice_ne_nil here.wellFormed))

/-- An opening belongs to an escape, or is the beginning of a token. -/
theorem OpenedAt.cases (opened : OpenedAt text start) :
    (∃ first last, ⟨.escaped, first, last⟩ ∈ lex text ∧ first ≤ start ∧ start < last) ∨
    (∃ key stop, ⟨.reference key, start, stop⟩ ∈ lex text) ∨
    ∃ key stop, ⟨.unclosed key, start, stop⟩ ∈ lex text := by
  obtain ⟨before, after, stands⟩ := opened
  obtain ⟨whole, rfl, -⟩ := stands.chars
  by_cases escapes : before.toList.getLast? = some '\\'
  · left
    obtain ⟨front, shape⟩ := List.getLast?_eq_some_iff.mp escapes
    have escaped : TokenAt text.toList front .escaped :=
      tokenAt_escaped_iff.mpr ⟨after.toList, by simp [whole, shape]⟩
    refine ⟨_, _, mem_lex_iff.mpr ⟨front, escaped, rfl, rfl⟩, ?_, ?_⟩
    · rw [shape, byteSize_append]
      omega
    · rw [shape, byteSize_append]
      exact Nat.add_lt_add_left (by decide) _
  · right
    have opens : OpensAt text.toList before.toList := ⟨⟨after.toList, by simp [whole]⟩, escapes⟩
    rcases opens.cases with ⟨key, here⟩ | ⟨key, here⟩
    · exact .inl ⟨key, _, mem_lex_iff.mpr ⟨_, here, rfl, rfl⟩⟩
    · exact .inr ⟨key, _, mem_lex_iff.mpr ⟨_, here, rfl, rfl⟩⟩

theorem exists_unclosed_iff : (∃ key stop, ⟨.unclosed key, start, stop⟩ ∈ lex text) ↔
    OpenedAt text start ∧ (∀ key stop, ⟨.reference key, start, stop⟩ ∉ lex text) ∧
      ∀ first last, ⟨.escaped, first, last⟩ ∈ lex text → ¬(first ≤ start ∧ start < last) := by
  constructor
  · rintro ⟨key, stop, here⟩
    refine ⟨openedAt_of_mem rfl here, ?_, ?_⟩
    · intro name last there
      have same := token_eq_of_mem here there (Nat.le_refl start) (lt_of_mem here)
      cases same
    · rintro first last there ⟨behind, within⟩
      have same := token_eq_of_mem there here behind within
      cases same
  · rintro ⟨opened, unreferenced, unescaped⟩
    rcases opened.cases with ⟨first, last, escaped, inside⟩ | ⟨key, stop, reference⟩ | unclosed
    · exact absurd inside (unescaped first last escaped)
    · exact absurd reference (unreferenced key stop)
    · exact unclosed

theorem unclosed_reaches (member : ⟨.unclosed key, start, stop⟩ ∈ lex text) :
    (∀ c ∈ key.toList, isKeyChar c = true) ∧
      ∃ before after, Stands text start stop before ("$(" ++ key) after ∧
        Stops isKeyChar after.toList := by
  have written : String.ofList (Token.unclosed key).slice = "$(" ++ key := by
    rw [← String.toList_inj]
    simp [slice]
  obtain ⟨before, here, rfl, rfl⟩ := mem_lex_iff.mp member
  obtain ⟨after, whole, ends⟩ := here.ends
  refine ⟨here.wellFormed, .ofList before, .ofList after, ?_, ?_⟩
  · rw [← written]
    exact stands_ofList whole
  · rw [String.toList_ofList]
    exact ends

theorem covers_lex (text : String) : Covers 0 (lex text) text.utf8ByteSize := by
  have wellFormed : ∀ token ∈ scan text.toList, token.WellFormed :=
    fun token => wellFormed_of_mem_scan
  have covers := covers_placed wellFormed 0
  rwa [slices_scan, byteSize, String.ofList_toList, Nat.zero_add] at covers

theorem not_both_texts {first second : Lexeme} (adjacent : [first, second] <:+: lex text)
    (content more : String) : ¬(first.token = .text content ∧ second.token = .text more) := by
  rintro ⟨here, behind⟩
  obtain ⟨front, back, split⟩ := adjacent
  have tokens := congrArg (List.map Lexeme.token) split.symm
  rw [lex, tokens_placed] at tokens
  simp only [List.map_append, List.map_cons, here, behind, List.append_assoc,
    List.cons_append, List.nil_append] at tokens
  exact scan_ne_texts tokens

end Lexemes

/-- What the tokens of a text are and where they stand, by the characters of the text alone. -/
structure Tokenised (text : String) (lexemes : List Lexeme) : Prop where
  covers : Covers 0 lexemes text.utf8ByteSize
  recognised : ∀ lexeme ∈ lexemes, lexeme.token.WellFormed ∧ ∃ before after,
    Stands text lexeme.start lexeme.stop before (.ofList lexeme.token.slice) after
  texts_apart : ∀ first second, [first, second] <:+: lexemes → ∀ content more,
    ¬(first.token = .text content ∧ second.token = .text more)
  reference_iff : ∀ key start stop, ⟨.reference key, start, stop⟩ ∈ lexemes ↔
    ∃ before after, Stands text start stop before ("$(" ++ key ++ ")") after ∧
      IsName key.toList ∧ before.toList.getLast? ≠ some '\\'
  escaped_iff : ∀ start stop, ⟨.escaped, start, stop⟩ ∈ lexemes ↔
    ∃ before after, Stands text start stop before "\\$(" after
  unclosed_iff : ∀ start, (∃ key stop, ⟨.unclosed key, start, stop⟩ ∈ lexemes) ↔
    OpenedAt text start ∧ (∀ key stop, ⟨.reference key, start, stop⟩ ∉ lexemes) ∧
      ∀ first last, ⟨.escaped, first, last⟩ ∈ lexemes → ¬(first ≤ start ∧ start < last)
  unclosed_reaches : ∀ key start stop, ⟨.unclosed key, start, stop⟩ ∈ lexemes →
    (∀ c ∈ key.toList, isKeyChar c = true) ∧
      ∃ before after, Stands text start stop before ("$(" ++ key) after ∧
        Stops isKeyChar after.toList

/-- Every text is cut into tokens of the known kinds, one behind the other from its first byte to
its last, with all plain characters next to each other in one token. A reference stands exactly
where one is written and no backslash is in front of it, an escape exactly where one is written,
and every other opening is left unclosed, together with the whole name behind it. -/
theorem lex_tokenises (text : String) : Tokenised text (lex text) where
  covers := covers_lex text
  recognised lexeme member := by
    obtain ⟨before, after, stands, here⟩ := mem_lex_iff_stands.mp member
    exact ⟨here.wellFormed, before, after, stands⟩
  texts_apart _ _ adjacent := not_both_texts adjacent
  reference_iff _ _ _ := mem_reference_iff
  escaped_iff _ _ := mem_escaped_iff
  unclosed_iff _ := exists_unclosed_iff
  unclosed_reaches _ _ _ := unclosed_reaches

end Blueprint.Template
