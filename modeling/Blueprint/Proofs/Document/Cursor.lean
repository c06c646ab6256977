import Blueprint.Document.SourceError
import Blueprint.Proofs.Text.Split
import Blueprint.Proofs.Traversal

/-!
Cursors in a text, and where the spans of syntax errors begin. The reader names a line and a byte of
this line. The span begins with the character that contains the byte if it is the first byte of
this character, and behind the line otherwise.
-/

namespace Blueprint

open Json (byteCount Position)
open Text (terminated)

/-- A cursor in a text: the lines above, the line up to the cursor, and all that follows. -/
@[ext]
structure Cursor (text : List Char) where
  above : List (List Char)
  start : List Char
  rest : List Char
  whole : text = terminated above ++ (start ++ rest)
  unbroken : ∀ line ∈ above, '\n' ∉ line
  inLine : '\n' ∉ start

namespace Cursor

variable {text : List Char}

/-- Lines are counted from one. -/
def line (cursor : Cursor text) : Nat := cursor.above.length + 1

/-- The number of characters of the text before the cursor, newlines included. -/
def index (cursor : Cursor text) : Nat := (terminated cursor.above).length + cursor.start.length

/-- The whole line of the cursor. -/
def lineText (cursor : Cursor text) : List Char :=
  cursor.start ++ cursor.rest.takeWhile (· != '\n')

/-- The number of characters of the text before the end of the line. -/
def lineEnd (cursor : Cursor text) : Nat :=
  (terminated cursor.above).length + cursor.lineText.length

/-- The character at the cursor is part of its line and contains a byte of it. The bytes of a line
are counted from one. -/
def HasByte (cursor : Cursor text) (column : Nat) : Prop :=
  ∃ c after, cursor.rest = c :: after ∧ c ≠ '\n' ∧
    byteCount cursor.start < column ∧ column ≤ byteCount cursor.start + c.utf8Size

/-- The character at the cursor contains the byte that the reader has come to. -/
def Holds (cursor : Cursor text) (position : Position) : Prop :=
  cursor.line = position.line ∧ cursor.HasByte position.column

/-- The byte is the first one of the character at the cursor. -/
def BeginsAt (cursor : Cursor text) (column : Nat) : Prop := column = byteCount cursor.start + 1

instance (cursor : Cursor text) (column : Nat) : Decidable (cursor.BeginsAt column) :=
  inferInstanceAs (Decidable (_ = _))

end Cursor

/-! ### Counting bytes -/

namespace Json

theorem byteCount_cons (c : Char) (rest : List Char) :
    byteCount (c :: rest) = c.utf8Size + byteCount rest := rfl

theorem byteCount_append (first second : List Char) :
    byteCount (first ++ second) = byteCount first + byteCount second := by
  induction first with
  | nil => exact (Nat.zero_add _).symm
  | cons c rest ih => rw [List.cons_append, byteCount_cons, byteCount_cons, ih, Nat.add_assoc]

end Json

open Json (byteCount_cons byteCount_append)

namespace SourceError

theorem charsIn?_append (start more : List Char) (bytes : Nat) :
    charsIn? (byteCount start + bytes) (start ++ more) =
      (charsIn? bytes more).map (start.length + ·) := by
  induction start with
  | nil => simp [byteCount]
  | cons c rest ih =>
    have positive := c.utf8Size_pos
    obtain ⟨size, shape⟩ : ∃ size, byteCount (c :: rest) + bytes = size + 1 :=
      ⟨byteCount (c :: rest) + bytes - 1, by rw [byteCount_cons]; omega⟩
    have left : size + 1 - c.utf8Size = byteCount rest + bytes := by
      rw [← shape, byteCount_cons]
      omega
    have fits : c.utf8Size ≤ size + 1 := by
      rw [← shape, byteCount_cons]
      omega
    rw [shape, List.cons_append, charsIn?, if_pos fits, left, ih, Option.map_map]
    congr 1
    funext count
    simp only [Function.comp_apply, List.length_cons]
    omega

/-- No number of characters ends inside a character. -/
theorem charsIn?_inside {c : Char} {bytes : Nat} (rest : List Char) (some : 0 < bytes)
    (fewer : bytes < c.utf8Size) : charsIn? bytes (c :: rest) = none := by
  obtain ⟨size, rfl⟩ : ∃ size, bytes = size + 1 := ⟨bytes - 1, by omega⟩
  rw [charsIn?, if_neg (by omega)]

theorem lineOffset_eq {start : List Char} {c : Char} {column : Nat} (after : List Char)
    (behind : byteCount start < column) (upTo : column ≤ byteCount start + c.utf8Size) :
    lineOffset column (start ++ c :: after) =
      if column = byteCount start + 1 then start.length else (start ++ c :: after).length := by
  have inLine : min (column - 1) (byteCount (start ++ c :: after)) =
      byteCount start + (column - 1 - byteCount start) := by
    rw [byteCount_append, byteCount_cons]
    omega
  rw [lineOffset, inLine, charsIn?_append]
  by_cases first : column = byteCount start + 1
  · have none : column - 1 - byteCount start = 0 := by omega
    rw [if_pos first, none]
    rfl
  · rw [if_neg first, charsIn?_inside after (by omega) (by omega)]
    rfl

/-! ### The offset of a cursor -/

theorem offsetIn_append (column : Nat) (above : List (List Char)) (line : List Char)
    (below : List (List Char)) : offsetIn column above.length (above ++ line :: below) =
      some ((terminated above).length + lineOffset column line) := by
  induction above with
  | nil => simp [offsetIn, terminated]
  | cons first above ih =>
    rw [List.length_cons, List.cons_append, offsetIn, ih, Option.map_some]
    congr 1
    simp only [terminated, List.flatMap_cons, List.length_append, List.length_singleton]
    omega

end SourceError

namespace Cursor

open SourceError

variable {text : List Char} {cursor : Cursor text} {position : Position} {column : Nat}

theorem split_eq (cursor : Cursor text) :
    ∃ below, Text.split '\n' text = cursor.above ++ cursor.lineText :: below := by
  obtain ⟨below, first⟩ := Text.split_first '\n' (cursor.start ++ cursor.rest)
  have inLine : ∀ c ∈ cursor.start, (c != '\n') = true := by
    intro c member
    rw [bne_iff_ne]
    rintro rfl
    exact cursor.inLine member
  refine ⟨below, ?_⟩
  rw [List.takeWhile_append_of_pos inLine] at first
  have parts := Text.split_terminated cursor.unbroken (cursor.start ++ cursor.rest)
  rw [← cursor.whole, first] at parts
  exact parts

/-- Whatever the column, the offset is counted from the beginning of the line. -/
theorem charOffset_eq (cursor : Cursor text) (column : Nat) : charOffset text cursor.line column =
    (terminated cursor.above).length + lineOffset column cursor.lineText := by
  obtain ⟨below, lines⟩ := cursor.split_eq
  have counted : cursor.line ≠ 0 := Nat.succ_ne_zero _
  have above : cursor.line - 1 = cursor.above.length := rfl
  rw [charOffset, if_neg counted, above, lines, offsetIn_append, Option.getD_some]

theorem HasByte.lineText_eq (byte : cursor.HasByte column) : ∃ c after,
    cursor.lineText = cursor.start ++ c :: after ∧ byteCount cursor.start < column ∧
      column ≤ byteCount cursor.start + c.utf8Size := by
  obtain ⟨c, after, here, ordinary, behind, upTo⟩ := byte
  refine ⟨c, after.takeWhile (· != '\n'), ?_, behind, upTo⟩
  rw [lineText, here, List.takeWhile_cons_of_pos (by simpa using ordinary)]

theorem HasByte.index_lt (byte : cursor.HasByte column) : cursor.index < cursor.lineEnd := by
  obtain ⟨c, after, whole, _, _⟩ := byte.lineText_eq
  rw [index, lineEnd, whole, List.length_append, List.length_cons]
  omega

/-- The offset of a byte is where its character stands, if it is the first one of it. -/
theorem Holds.charOffset_eq (holds : cursor.Holds position) :
    charOffset text position.line position.column =
      if cursor.BeginsAt position.column then cursor.index else cursor.lineEnd := by
  obtain ⟨line, byte⟩ := holds
  obtain ⟨c, after, whole, behind, upTo⟩ := byte.lineText_eq
  rw [← line, Cursor.charOffset_eq, whole, lineOffset_eq after behind upTo, lineEnd, whole]
  by_cases first : position.column = byteCount cursor.start + 1
  · rw [if_pos first]
    exact (if_pos first).symm
  · rw [if_neg first]
    exact (if_neg first).symm

/-! ### One character contains a byte -/

theorem start_length_le {start other more others : List Char} {c : Char}
    (same : start ++ c :: more = other ++ others) (behind : byteCount other < column)
    (upTo : column ≤ byteCount start + c.utf8Size) : other.length ≤ start.length := by
  rcases List.append_eq_append_iff.mp same with ⟨mid, longer, rest⟩ | ⟨mid, shorter, _⟩
  · cases mid with
    | nil => simp [longer]
    | cons d mid =>
      -- all of the character would lie before the byte
      obtain ⟨rfl, _⟩ := List.cons.inj rest
      rw [longer, byteCount_append, byteCount_cons] at behind
      omega
  · rw [shorter, List.length_append]
    omega

theorem Holds.unique {other : Cursor text} (here : cursor.Holds position)
    (there : other.Holds position) : cursor = other := by
  obtain ⟨line, c, after, rest, _, behind, upTo⟩ := here
  obtain ⟨otherLine, d, others, otherRest, _, otherBehind, otherUpTo⟩ := there
  obtain ⟨below, lines⟩ := cursor.split_eq
  obtain ⟨otherBelow, otherLines⟩ := other.split_eq
  have height : cursor.above.length = other.above.length :=
    Nat.succ.inj (line.trans otherLine.symm)
  have above : cursor.above = other.above :=
    List.append_inj_left (lines.symm.trans otherLines) height
  have remaining : cursor.start ++ cursor.rest = other.start ++ other.rest := by
    have texts := cursor.whole.symm.trans other.whole
    rw [above] at texts
    exact List.append_cancel_left texts
  have length : cursor.start.length = other.start.length := by
    apply Nat.le_antisymm
    · rw [otherRest] at remaining
      exact start_length_le remaining.symm behind otherUpTo
    · rw [rest] at remaining
      exact start_length_le remaining otherBehind upTo
  obtain ⟨start, rest⟩ := List.append_inj remaining length
  exact Cursor.ext above start rest

/-! ### Where the reader comes to -/

def origin (text : List Char) : Cursor text where
  above := []
  start := []
  rest := text
  whole := rfl
  unbroken := by simp
  inLine := by simp

def nextLine (cursor : Cursor text) {after : List Char} (here : cursor.rest = '\n' :: after) :
    Cursor text where
  above := cursor.above ++ [cursor.start]
  start := []
  rest := after
  whole := cursor.whole.trans (by simp [here, terminated])
  unbroken line member := by
    rcases List.mem_append.mp member with above | last
    · exact cursor.unbroken line above
    · rw [List.mem_singleton.mp last]
      exact cursor.inLine
  inLine := by simp

def next (cursor : Cursor text) {c : Char} {after : List Char} (here : cursor.rest = c :: after)
    (ordinary : c ≠ '\n') : Cursor text where
  above := cursor.above
  start := cursor.start ++ [c]
  rest := after
  whole := cursor.whole.trans (by simp [here])
  unbroken := cursor.unbroken
  inLine := by simp [cursor.inLine, ordinary.symm]

def previous (cursor : Cursor text) {front : List Char} {c : Char}
    (here : cursor.start = front ++ [c]) : Cursor text where
  above := cursor.above
  start := front
  rest := c :: cursor.rest
  whole := cursor.whole.trans (by simp [here])
  unbroken := cursor.unbroken
  inLine member := cursor.inLine (here ▸ List.mem_append_left [c] member)

/-- All bytes of the line up to the position have been read, or the next character in part. -/
def Reached (cursor : Cursor text) (position : Position) : Prop :=
  position = ⟨cursor.line, byteCount cursor.start⟩ ∨
  ∃ c after bytes, cursor.rest = c :: after ∧ c ≠ '\n' ∧ 0 < bytes ∧ bytes < c.utf8Size ∧
    position = ⟨cursor.line, byteCount cursor.start + bytes⟩

theorem exists_reached {rest : List Char} (here : cursor.rest = rest) (bytes : Nat) :
    ∃ stop : Cursor text,
      stop.Reached ((Position.mk cursor.line (byteCount cursor.start)).after bytes rest) := by
  induction rest generalizing cursor bytes with
  | nil => exact ⟨cursor, .inl rfl⟩
  | cons c after ih =>
    rw [Position.after]
    split
    · next inside =>
      refine ⟨cursor, ?_⟩
      by_cases none : bytes = 0
      · subst none
        exact .inl rfl
      · refine .inr ⟨c, after, bytes, here, ?_, by omega, inside, rfl⟩
        rintro rfl
        exact none (by simpa [Char.utf8Size] using inside)
    · split
      · next newline =>
        subst newline
        have further := ih (rfl : (cursor.nextLine here).rest = after) (bytes - 1)
        have below : (cursor.nextLine here).line = cursor.line + 1 := by
          simp [line, nextLine]
        rw [below] at further
        exact further
      · next ordinary =>
        have further := ih (rfl : (cursor.next here ordinary).rest = after) (bytes - c.utf8Size)
        have read : byteCount (cursor.next here ordinary).start =
            byteCount cursor.start + c.utf8Size := byteCount_append cursor.start [c]
        rw [read] at further
        exact further

theorem Reached.exists_holds (reached : cursor.Reached position) (some : 0 < position.column) :
    ∃ holder : Cursor text, holder.Holds position := by
  rcases reached with rfl | ⟨c, after, bytes, rest, ordinary, positive, inside, rfl⟩
  · rcases List.eq_nil_or_concat' cursor.start with empty | ⟨front, c, last⟩
    · rw [empty] at some
      cases some
    · have ordinary : c ≠ '\n' := by
        rintro rfl
        exact cursor.inLine (last ▸ List.mem_append_right front List.mem_cons_self)
      have size := c.utf8Size_pos
      have count : byteCount cursor.start = byteCount front + c.utf8Size := by
        rw [last]
        exact byteCount_append front [c]
      refine ⟨cursor.previous last, rfl, c, cursor.rest, rfl, ordinary, ?_, ?_⟩
      · change byteCount front < byteCount cursor.start
        omega
      · change byteCount cursor.start ≤ byteCount front + c.utf8Size
        omega
  · refine ⟨cursor, rfl, c, after, rest, ordinary, ?_, ?_⟩
    · change byteCount cursor.start < byteCount cursor.start + bytes
      omega
    · change byteCount cursor.start + bytes ≤ byteCount cursor.start + c.utf8Size
      omega

theorem exists_holds_after {bytes : Nat} (some : 0 < (Position.start.after bytes text).column) :
    ∃ cursor : Cursor text, cursor.Holds (Position.start.after bytes text) := by
  obtain ⟨stop, reached⟩ := exists_reached (rfl : (origin text).rest = text) bytes
  exact reached.exists_holds some

end Cursor

theorem parseSource_error {text : String} {error : SourceError}
    (failed : parseSource text = .error error) :
    (∃ bytes, error.problem.position = Position.start.after bytes text.toList) ∧
      error.span = SourceError.spanAt text.toList error.problem.position := by
  obtain ⟨problem, unread, rfl⟩ := Traversal.mapError_error_iff.mp failed
  obtain ⟨fault, _, rfl⟩ := Traversal.mapError_error_iff.mp unread
  exact ⟨⟨_, rfl⟩, rfl⟩

/-- A syntax error names a line and a byte of it, which exactly one character of the line contains.
The span of the error begins with this character if the byte is its first one. If the byte is
another one, the span begins behind the line instead. -/
theorem span_start_iff_first_byte (text : String) (error : SourceError)
    (failed : parseSource text = .error error) (inLine : 0 < error.problem.position.column) :
    ∃ cursor : Cursor text.toList, cursor.Holds error.problem.position ∧
      (∀ other : Cursor text.toList, other.Holds error.problem.position → other = cursor) ∧
      (error.span.start = cursor.index ↔ cursor.BeginsAt error.problem.position.column) ∧
      (¬cursor.BeginsAt error.problem.position.column → error.span.start = cursor.lineEnd) := by
  obtain ⟨⟨bytes, reached⟩, spanned⟩ := parseSource_error failed
  rw [reached] at inLine
  obtain ⟨cursor, holds⟩ := Cursor.exists_holds_after inLine
  rw [← reached] at holds
  have start : error.span.start = if cursor.BeginsAt error.problem.position.column
      then cursor.index else cursor.lineEnd := by
    rw [spanned]
    exact holds.charOffset_eq
  have shorter := holds.2.index_lt
  refine ⟨cursor, holds, fun other there => there.unique holds, ?_, ?_⟩
  · rw [start]
    by_cases first : cursor.BeginsAt error.problem.position.column
    · simp [first]
    · simp only [first, if_false, iff_false]
      omega
  · intro inside
    rw [start, if_neg inside]

def syntaxError? (text : String) : Option SourceError :=
  match parseSource text with
  | .error error => some error
  | .ok _ => none

theorem syntaxError?_eq_some_iff {text : String} {error : SourceError} :
    syntaxError? text = some error ↔ parseSource text = .error error := by
  unfold syntaxError?
  cases parseSource text <;> simp

/-- The value that is not one begins on the seventh byte of the second line. -/
def foreignText : String := "[\n\"é\", é]"

def foreignCursor : Cursor foreignText.toList where
  above := [['[']]
  start := ['"', 'é', '"', ',', ' ']
  rest := ['é', ']']
  whole := String.toList_ofList
  unbroken := by decide
  inLine := by decide

theorem foreign_error : syntaxError? foreignText =
    some ⟨⟨.expectedValue, ⟨2, 7⟩⟩, ⟨7, 8⟩⟩ := by
  have chars : foreignText.toList = _ := String.toList_ofList
  unfold syntaxError? parseSource Json.read SourceError.ofSyntax
  rw [chars]
  decide +kernel

theorem span_start_iff_first_byte_foreign : ∃ error, parseSource foreignText = .error error ∧
    foreignCursor.Holds error.problem.position ∧
    foreignCursor.BeginsAt error.problem.position.column ∧
    error.span.start = foreignCursor.index := by
  have failed := syntaxError?_eq_some_iff.mp foreign_error
  have holds : foreignCursor.Holds ⟨2, 7⟩ :=
    ⟨rfl, 'é', [']'], rfl, by decide, by decide, by decide⟩
  obtain ⟨cursor, _, unique, start, _⟩ :=
    span_start_iff_first_byte foreignText _ failed (by decide)
  have first : foreignCursor.BeginsAt 7 := by decide
  rw [← unique foreignCursor holds] at start
  exact ⟨_, failed, holds, first, start.mpr first⟩

/-- The last of four hexadecimal digits is the second byte of a character. -/
def halvedText : String := "[\"\\u00é\", 1]"

def halvedCursor : Cursor halvedText.toList where
  above := []
  start := ['[', '"', '\\', 'u', '0', '0']
  rest := ['é', '"', ',', ' ', '1', ']']
  whole := String.toList_ofList
  unbroken := by decide
  inLine := by decide

theorem halved_error : syntaxError? halvedText =
    some ⟨⟨.invalidEscape, ⟨1, 8⟩⟩, ⟨12, 12⟩⟩ := by
  have chars : halvedText.toList = _ := String.toList_ofList
  unfold syntaxError? parseSource Json.read SourceError.ofSyntax
  rw [chars]
  decide +kernel

/-- The span does not always begin with the character that contains the byte: it stands behind the
whole line here. -/
theorem span_start_behind_line : ∃ error, parseSource halvedText = .error error ∧
    error.problem.position = ⟨1, 8⟩ ∧ error.span.start = 12 ∧
    (∃ cursor : Cursor halvedText.toList, cursor.Holds error.problem.position) ∧
    ∀ cursor : Cursor halvedText.toList, cursor.Holds error.problem.position →
      cursor.index = 6 ∧ error.span.start ≠ cursor.index := by
  have failed := syntaxError?_eq_some_iff.mp halved_error
  have holds : halvedCursor.Holds ⟨1, 8⟩ :=
    ⟨rfl, 'é', ['"', ',', ' ', '1', ']'], rfl, by decide, by decide, by decide⟩
  refine ⟨_, failed, rfl, rfl, ⟨halvedCursor, holds⟩, ?_⟩
  intro cursor there
  rw [there.unique holds]
  decide

end Blueprint
