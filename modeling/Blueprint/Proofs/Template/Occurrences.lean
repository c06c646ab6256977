import Blueprint.Event
import Blueprint.Proofs.Template.References

/-!
Which references of a text are replaced. A reference counts wherever it is written without a
backslash in front of it. Every one that names a constant has the displayed value in its place, all
other characters stay, and those that name no constant are reported in the order of the text.
-/

namespace Blueprint.Template

open Token

variable {table : ConstantTable} {text before : List Char} {key : String}

/-- A part of a text: one character, or a whole reference in parentheses. -/
inductive Piece where
  | character (c : Char)
  | reference (key : String)
  deriving DecidableEq, Repr

namespace Piece

def written : Piece → List Char
  | character c => [c]
  | reference key => '$' :: '(' :: (key.toList ++ [')'])

/-- The piece with the displayed value of a constant in place of a reference to it. -/
def replaced (table : ConstantTable) : Piece → List Char
  | character c => [c]
  | reference key =>
    match table.get? key with
    | some value => value.display.toList
    | none => (reference key).written

/-- The name in a reference to a constant that the table does not have. -/
def unknown? (table : ConstantTable) : Piece → Option String
  | character _ => none
  | reference key => if table.get? key = none then some key else none

end Piece

/-- Behind a beginning of the text, which does not end in a backslash, stands a reference. -/
structure RefersAt (text before : List Char) (key : String) : Prop where
  isName : IsName key.toList
  here : before ++ (Piece.reference key).written <+: text
  unescaped : before.getLast? ≠ some '\\'

/-! ### The pieces of a token -/

def Token.pieces : Token → List Piece
  | .reference key => [.reference key]
  | token => token.slice.map .character

theorem flatMap_characters {f : Piece → List Char} (same : ∀ c, f (.character c) = [c])
    (chars : List Char) : (chars.map Piece.character).flatMap f = chars := by
  induction chars with
  | nil => rfl
  | cons c rest ih => simp [same, ih]

theorem written_pieces (token : Token) : token.pieces.flatMap Piece.written = token.slice := by
  cases token with
  | reference key => simp [pieces, Piece.written, slice]
  | _ => exact flatMap_characters (fun _ => rfl) _

theorem written_flatMap (tokens : List Token) :
    (tokens.flatMap pieces).flatMap Piece.written = tokens.flatMap slice := by
  rw [List.flatMap_assoc, List.flatMap_congr fun token _ => written_pieces token]

theorem replaced_pieces (token : Token) :
    token.pieces.flatMap (Piece.replaced table) = token.expand table := by
  cases token with
  | reference key =>
    cases found : table.get? key with
    | some value => simp [pieces, Piece.replaced, expand_of_known found, found]
    | none => simp [pieces, Piece.replaced, expand_of_unknown found, found, Piece.written, slice]
  | _ => exact flatMap_characters (fun _ => rfl) _

/-- What is reported of a text, piece by piece. -/
theorem unknownReferences_eq (table : ConstantTable) (text : List Char) :
    unknownReferences table text =
      ((scan text).flatMap pieces).filterMap (Piece.unknown? table) := by
  unfold unknownReferences
  induction scan text with
  | nil => rfl
  | cons token rest ih =>
    rw [List.flatMap_cons, List.filterMap_append, ← ih]
    cases token with
    | reference key =>
      cases found : table.get? key <;> simp [pieces, Piece.unknown?, found]
    | _ => simp [pieces, Piece.unknown?]

/-! ### Where the references of a text stand -/

/-- A reference among the pieces of tokens is a token of its own. -/
theorem split_pieces {tokens : List Token} {earlier later : List Piece}
    (split : tokens.flatMap pieces = earlier ++ .reference key :: later) :
    ∃ front back, tokens = front ++ .reference key :: back ∧ front.flatMap pieces = earlier := by
  induction tokens generalizing earlier with
  | nil => simp at split
  | cons token rest ih =>
    rw [List.flatMap_cons] at split
    -- The reference lies behind the pieces of the first token, or among them.
    rcases List.append_eq_append_iff.mp split with ⟨more, rfl, behind⟩ | ⟨more, inside, behind⟩
    · obtain ⟨front, back, rfl, same⟩ := ih behind
      exact ⟨token :: front, back, rfl, by simp [same]⟩
    · cases more with
      | nil =>
        have further : rest.flatMap pieces = [] ++ .reference key :: later := behind.symm
        obtain ⟨front, back, rfl, same⟩ := ih further
        exact ⟨token :: front, back, rfl, by simp [same, inside]⟩
      | cons piece more =>
        obtain ⟨rfl, -⟩ := List.cons.inj behind
        have member : .reference key ∈ token.pieces := by simp [inside]
        cases token with
        | reference other =>
          obtain rfl : key = other := by simpa [pieces] using member
          refine ⟨[], rest, rfl, ?_⟩
          cases earlier with
          | nil => rfl
          | cons first earlier => simp [pieces] at inside
        | _ => simp [pieces] at member

/-- Only a lone backslash ends in one. -/
theorem getLast?_slice {token : Token} (wellFormed : token.WellFormed)
    (other : token ≠ .backslash) : token.slice.getLast? ≠ some '\\' := by
  intro last
  have inside := List.mem_of_getLast? last
  cases token with
  | escaped => simp [slice] at last
  | reference key =>
    have inKey : '\\' ∈ key.toList := by simpa [slice] using inside
    exact absurd rfl (ne_of_isKeyChar (wellFormed.keyChars _ inKey)).2.1
  | unclosed key =>
    have inKey : '\\' ∈ key.toList := by simpa [slice] using inside
    exact absurd rfl (ne_of_isKeyChar (wellFormed _ inKey)).2.1
  | dollar => simp [slice] at last
  | backslash => exact other rfl
  | text content =>
    have plain := wellFormed.2 _ inside
    revert plain
    decide

/-- Behind a lone backslash no reference is opened. -/
theorem not_opening_behind_backslash {c : Char} {rest : List Char}
    (lone : (first c rest).1 = .backslash) (after : List Char) :
    (first c rest).2 ≠ '$' :: '(' :: after := by
  cases beginning (c :: rest) with
  | escaped after => simp [first] at lone
  | backslash free =>
    rw [first_backslash free]
    exact free after
  | reference isName after => simp [first_opening, opened_name isName] at lone
  | unclosed keyChars stops open_ended =>
    simp [first_opening, opened_unclosed keyChars stops open_ended] at lone
  | dollar alone => simp [first_dollar alone] at lone
  | plain isPlain rest => simp [first_plain isPlain] at lone

/-- The text before a token that opens a reference does not end in a backslash. -/
theorem unescaped_of_scan {opening : Token} {inner : List Char} {front back : List Token}
    (opens : opening.slice = '$' :: '(' :: inner) (split : scan text = front ++ opening :: back) :
    (front.flatMap slice).getLast? ≠ some '\\' := by
  induction front generalizing text with
  | nil => simp
  | cons token front ih =>
    cases text with
    | nil => simp [scan] at split
    | cons c rest =>
      have whole := split
      rw [scan] at split
      obtain ⟨here, behind⟩ := List.cons.inj split
      rw [List.flatMap_cons, List.getLast?_append]
      cases last : (front.flatMap slice).getLast? with
      | some d =>
        have later := ih behind
        rwa [last] at later
      | none =>
        -- Nothing stands between the first token and the one that opens.
        have nothing := List.getLast?_eq_none_iff.mp last
        have follows : (first c rest).2 = '$' :: '(' :: (inner ++ back.flatMap slice) := by
          rw [← slices_scan (first c rest).2, behind]
          simp [nothing, opens]
        have wellFormed : token.WellFormed := wellFormed_of_mem_scan (by rw [whole]; simp)
        apply getLast?_slice wellFormed
        rintro rfl
        exact not_opening_behind_backslash here _ follows

/-- A reference that no backslash escapes is a token. -/
theorem RefersAt.scan (refers : RefersAt text before key) :
    ∃ after, scan text = scan before ++ .reference key :: Token.scan after := by
  obtain ⟨after, rfl⟩ := refers.here
  refine ⟨after, ?_⟩
  have cut := scan_reference refers.isName after
  rw [String.ofList_toList] at cut
  have shape : before ++ (Piece.reference key).written ++ after =
      before ++ '$' :: '(' :: (key.toList ++ ')' :: after) := by simp [Piece.written]
  rw [shape, scan_append (seam_dollar refers.unescaped _), cut]

/-- The references among the pieces of a text are those that no backslash escapes. -/
theorem refersAt_iff : RefersAt text before key ↔ ∃ earlier later,
    (scan text).flatMap pieces = earlier ++ .reference key :: later ∧
      earlier.flatMap Piece.written = before := by
  constructor
  · intro refers
    obtain ⟨after, tokens⟩ := refers.scan
    refine ⟨(scan before).flatMap pieces, (scan after).flatMap pieces, ?_, ?_⟩
    · rw [tokens, List.flatMap_append, List.flatMap_cons]
      rfl
    · rw [written_flatMap, slices_scan]
  · intro listed
    obtain ⟨earlier, later, split, rfl⟩ := listed
    obtain ⟨front, back, tokens, rfl⟩ := split_pieces split
    have member : .reference key ∈ scan text := by simp [tokens]
    refine ⟨wellFormed_of_mem_scan member, ?_, ?_⟩
    · refine ⟨back.flatMap slice, ?_⟩
      rw [← slices_scan text, tokens, written_flatMap]
      simp [Piece.written, slice]
    · rw [written_flatMap]
      exact unescaped_of_scan rfl tokens

/-- The pass for references in parentheses replaces those that name a constant wherever they stand
without a backslash in front of them, each by the displayed value, and leaves everything else as it
is. It warns of those that name no constant, one by one and in the order of the text. -/
theorem references_replaced_in_place (table : ConstantTable) (text : String) :
    ∃ pieces : List Piece, pieces.flatMap Piece.written = text.toList ∧
      (∀ before key, RefersAt text.toList before key ↔ ∃ earlier later,
        pieces = earlier ++ .reference key :: later ∧
          earlier.flatMap Piece.written = before) ∧
      substituteReferences table text.toList = pieces.flatMap (Piece.replaced table) ∧
      (Event.ofText table text).map Event.line =
        (pieces.filterMap (Piece.unknown? table)).map fun key =>
          "WARN Unknown compiler const " ++ key ++ " key=" ++ key := by
  refine ⟨(scan text.toList).flatMap pieces, ?_, fun before key => refersAt_iff, ?_, ?_⟩
  · rw [written_flatMap, slices_scan]
  · rw [List.flatMap_assoc, List.flatMap_congr fun token _ => replaced_pieces token,
      substituteReferences_eq]
  · rw [Event.ofText, unknownReferences_eq, List.map_map]
    apply List.map_congr_left
    intro key _
    rfl

end Blueprint.Template
