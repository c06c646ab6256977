import Blueprint.Proofs.Document.Cursor

/-!
Spans of syntax errors stay in their line. Whatever the column, a span begins between the beginning
and the end of the line that it is made for, and it covers no more than one character.
-/

namespace Blueprint

open Json (Position)
open Text (terminated)

/-- The span begins in a line: as many newlines stand before it as there are lines above. It covers
one character of the text, or none at the end. -/
structure Span.WithinLine (span : Span) (text : List Char) (line : Nat) : Prop where
  newlines : (text.take span.start).count '\n' = line - 1
  inText : span.start ≤ text.length
  stop : span.stop = if span.start < text.length then span.start + 1 else span.start

theorem Span.WithinLine.stop_le {span : Span} {text : List Char} {line : Nat}
    (within : span.WithinLine text line) : span.stop ≤ text.length := by
  have inText := within.inText
  rw [within.stop]
  split <;> omega

namespace SourceError

theorem charsIn?_le {bytes count : Nat} {line : List Char} (cut : charsIn? bytes line = some count) :
    count ≤ line.length := by
  induction line generalizing bytes count with
  | nil =>
    cases bytes with
    | zero =>
      cases cut
      exact Nat.le_refl _
    | succ bytes => cases cut
  | cons c rest ih =>
    cases bytes with
    | zero =>
      cases cut
      exact Nat.zero_le _
    | succ bytes =>
      rw [charsIn?] at cut
      split at cut
      · obtain ⟨others, inRest, rfl⟩ := Option.map_eq_some_iff.mp cut
        have shorter := ih inRest
        rw [List.length_cons]
        omega
      · cases cut

theorem lineOffset_le (column : Nat) (line : List Char) : lineOffset column line ≤ line.length := by
  unfold lineOffset
  cases cut : charsIn? (min (column - 1) (Json.byteCount line)) line with
  | none => exact Nat.le_refl _
  | some count => exact charsIn?_le cut

end SourceError

namespace Cursor

open SourceError

variable {text : List Char}

theorem free_lineText (cursor : Cursor text) : '\n' ∉ cursor.lineText := by
  intro member
  rcases List.mem_append.mp member with before | behind
  · exact cursor.inLine before
  · have different := List.all_eq_true.mp List.all_takeWhile '\n' behind
    simp at different

/-- The text with the line of the cursor as a whole. -/
theorem eq_lineText (cursor : Cursor text) :
    text = terminated cursor.above ++ (cursor.lineText ++ cursor.rest.dropWhile (· != '\n')) := by
  apply cursor.whole.trans
  rw [lineText, List.append_assoc, List.takeWhile_append_dropWhile]

theorem take_inLine (cursor : Cursor text) {count : Nat} (short : count ≤ cursor.lineText.length) :
    text.take ((terminated cursor.above).length + count) =
      terminated cursor.above ++ cursor.lineText.take count := by
  apply (congrArg (List.take _) cursor.eq_lineText).trans
  rw [List.take_length_add_append, List.take_append_of_le_length short]

theorem count_newlines (cursor : Cursor text) :
    text.count '\n' = cursor.above.length + cursor.rest.count '\n' := by
  have texts := congrArg (List.count '\n') cursor.whole
  rw [texts, List.count_append, List.count_append, Text.count_terminated cursor.unbroken,
    List.count_eq_zero_of_not_mem cursor.inLine, Nat.zero_add]

/-- Moves over characters of the line. -/
def along (cursor : Cursor text) {front after : List Char} (here : cursor.rest = front ++ after)
    (free : '\n' ∉ front) : Cursor text where
  above := cursor.above
  start := cursor.start ++ front
  rest := after
  whole := cursor.whole.trans (by simp [here])
  unbroken := cursor.unbroken
  inLine := by simp [cursor.inLine, free]

/-- Every line that the text has is reached. -/
theorem exists_onLine {lines : Nat} (inText : lines < text.count '\n' + 1) :
    ∃ cursor : Cursor text, cursor.line = lines + 1 := by
  induction lines with
  | zero => exact ⟨origin text, rfl⟩
  | succ lines ih =>
    obtain ⟨cursor, reached⟩ := ih (by omega)
    -- Fewer newlines are above the cursor than in the text, so one is still to come.
    have more : 0 < cursor.rest.count '\n' := by
      have newlines := cursor.count_newlines
      rw [line] at reached
      omega
    obtain ⟨front, after, parted, free⟩ :=
      List.eq_append_cons_of_mem (List.count_pos_iff.mp more)
    refine ⟨(cursor.along parted free).nextLine rfl, ?_⟩
    rw [← reached]
    simp [line, nextLine, along]

/-- Whatever the column, the span of a position in the line of a cursor begins in this line. -/
theorem spanAt_withinLine (cursor : Cursor text) {position : Position}
    (onLine : cursor.line = position.line) :
    (spanAt text position).WithinLine text position.line := by
  obtain ⟨line, column⟩ := position
  subst onLine
  have offset := cursor.charOffset_eq column
  have short := lineOffset_le column cursor.lineText
  have inText : charOffset text cursor.line column ≤ text.length := by
    have lengths := congrArg List.length cursor.eq_lineText
    rw [List.length_append, List.length_append] at lengths
    omega
  refine ⟨?_, inText, ?_⟩
  · change (text.take (charOffset text cursor.line column)).count '\n' = cursor.line - 1
    have inLine : '\n' ∉ cursor.lineText.take (lineOffset column cursor.lineText) :=
      fun member => cursor.free_lineText (List.mem_of_mem_take member)
    rw [offset, cursor.take_inLine short, List.count_append, Text.count_terminated cursor.unbroken,
      List.count_eq_zero_of_not_mem inLine]
    rfl
  · change min (charOffset text cursor.line column + 1)
        (max text.length (charOffset text cursor.line column)) =
      if charOffset text cursor.line column < text.length
        then charOffset text cursor.line column + 1 else charOffset text cursor.line column
    split <;> omega

theorem Reached.line_eq {cursor : Cursor text} {position : Position}
    (reached : cursor.Reached position) : cursor.line = position.line := by
  rcases reached with rfl | ⟨c, after, bytes, _, _, _, _, rfl⟩
  · rfl
  · rfl

end Cursor

/-- The line that a syntax error names is a line of the text, and the span stays in it. -/
theorem rejected_span_withinLine {text : String} {error : SourceError}
    (failed : parseSource text = .error error) :
    error.span.WithinLine text.toList error.problem.position.line := by
  obtain ⟨⟨bytes, position⟩, spanned⟩ := parseSource_error failed
  obtain ⟨stop, reached⟩ := (Cursor.origin text.toList).exists_reached rfl bytes
  have onLine : stop.line = error.problem.position.line := by
    rw [position]
    exact reached.line_eq
  rw [spanned]
  exact stop.spanAt_withinLine onLine

/-- For every line of a text and every column, also none, one behind the line and one inside a
character, the offset lies in the line, and the span made of it stays in the text. -/
theorem span_stays_in_line (text : String) (problem : Json.SyntaxError)
    (counted : 1 ≤ problem.position.line)
    (existing : problem.position.line ≤ text.toList.count '\n' + 1) :
    (SourceError.ofSyntax text problem).span.start =
        SourceError.charOffset text.toList problem.position.line problem.position.column ∧
      (SourceError.ofSyntax text problem).span.WithinLine text.toList problem.position.line ∧
      (SourceError.ofSyntax text problem).span.stop ≤ text.toList.length := by
  obtain ⟨lines, count⟩ : ∃ lines, problem.position.line = lines + 1 :=
    ⟨problem.position.line - 1, by omega⟩
  have inText : lines < text.toList.count '\n' + 1 := by omega
  obtain ⟨cursor, reached⟩ := Cursor.exists_onLine inText
  have within := cursor.spanAt_withinLine (reached.trans count.symm)
  exact ⟨rfl, within, within.stop_le⟩

/-- The last of four hexadecimal digits is the second byte of a character in the first of two lines.
The span covers the newline. -/
def halvedLineText : String := "[\"\\u00é\",\n1]"

theorem halvedLine_error : syntaxError? halvedLineText =
    some ⟨⟨.invalidEscape, ⟨1, 8⟩⟩, ⟨9, 10⟩⟩ := by
  have chars : halvedLineText.toList = _ := String.toList_ofList
  unfold syntaxError? parseSource Json.read SourceError.ofSyntax
  rw [chars]
  decide +kernel

theorem span_stays_in_line_halved : ∃ error, parseSource halvedLineText = .error error ∧
    error.problem.position = ⟨1, 8⟩ ∧ halvedLineText.toList.count '\n' = 1 ∧
    error.span = ⟨9, 10⟩ ∧ error.span.WithinLine halvedLineText.toList 1 := by
  have failed := syntaxError?_eq_some_iff.mp halvedLine_error
  have spanned := (parseSource_error failed).2
  obtain ⟨_, within, _⟩ :=
    span_stays_in_line halvedLineText ⟨.invalidEscape, ⟨1, 8⟩⟩ (by decide) (by decide)
  exact ⟨_, failed, rfl, by decide, rfl, spanned ▸ within⟩

end Blueprint
