import Blueprint.Proofs.OrderedMap.Entries
import Blueprint.Proofs.Program
import Blueprint.Proofs.Template.Scan
import Blueprint.Proofs.Text.Integer
import Blueprint.Proofs.Text.Utf8
import Blueprint.Template.Glyphs

/-!
What a glyph table says, line by line. A line gives a constant at most one glyph, and of the lines
that give the same constant the first decides where it stands and the last which glyph it has.
Whether lines end in a newline alone or with a carriage return before it makes no difference.
-/

namespace Blueprint

namespace Text

variable {line rest : List Char}

/-! ### Lines -/

/-- The pieces of a text between its line breaks. Nothing behind a final line break is no line. -/
def lines (text : List Char) : List (List Char) :=
  let pieces := lineBreak.cut text
  if pieces.getLast? = some [] then pieces.dropLast else pieces

theorem lines_of_free (free : '\n' ∉ line) : lines line = if line = [] then [] else [line] := by
  simp [lines, cut_line free]

theorem lines_append (free : '\n' ∉ line) :
    lines (line ++ '\n' :: rest) = dropFinal '\r' line :: lines rest := by
  obtain ⟨piece, pieces, cut⟩ := List.exists_cons_of_ne_nil (Separator.cut_ne_nil lineBreak rest)
  simp only [lines, cut_line_append free, cut, List.getLast?_cons_cons, List.dropLast_cons_cons]
  split <;> rfl

theorem terminatedLines_append (free : '\n' ∉ line) :
    terminatedLines (line ++ '\n' :: rest) = dropFinal '\r' line :: terminatedLines rest := by
  obtain ⟨piece, pieces, cut⟩ := List.exists_cons_of_ne_nil (split_ne_nil '\n' rest)
  simp only [terminatedLines, split_append, split_of_free free,
    List.cons_append, List.nil_append, cut, List.getLast?_cons_cons, List.dropLast_cons_cons,
    List.map_cons]

theorem terminatedLines_eq (text : List Char) : terminatedLines text = lines text := by
  induction text using pieces_induction '\n' with
  | last line free => simp [terminatedLines, split_of_free free, lines_of_free free]
  | more line rest free ih => rw [terminatedLines_append free, lines_append free, ih]

/-- The text with a carriage return before every newline. -/
def withReturns (text : List Char) : List Char :=
  text.flatMap fun c => if c = '\n' then ['\r', '\n'] else [c]

theorem withReturns_of_free (free : '\n' ∉ line) : withReturns line = line := by
  induction line with
  | nil => rfl
  | cons c rest ih =>
    rw [List.mem_cons, not_or] at free
    rw [withReturns, List.flatMap_cons, if_neg (Ne.symm free.1)]
    exact congrArg (c :: ·) (ih free.2)

theorem lines_withReturns {text : List Char} (plain : '\r' ∉ text) :
    lines (withReturns text) = lines text := by
  induction text using pieces_induction '\n' with
  | last line free => rw [withReturns_of_free free]
  | more line rest free ih =>
    simp only [List.mem_append, List.mem_cons, not_or] at plain
    obtain ⟨inLine, _, behind⟩ := plain
    have parted : withReturns (line ++ '\n' :: rest) =
        (line ++ ['\r']) ++ '\n' :: withReturns rest := by
      have here := withReturns_of_free free
      rw [withReturns] at here ⊢
      rw [List.flatMap_append, here, List.flatMap_cons, if_pos rfl]
      simp [withReturns]
    have unreturned : line.getLast? ≠ some '\r' := fun last => inLine (List.mem_of_getLast? last)
    rw [parted, lines_append (by simpa using free), dropFinal_concat, ih behind, lines_append free,
      dropFinal_of_ne unreturned]

end Text

namespace Template

namespace GlyphTable

open OrderedMap (Tabulates tabulates_filterMap tabulates_iff)
open Token (Stops takeWhile_append_stops stops_dropWhile)

variable {field fields line : List Char} {constant value : String} {glyph : Char}
  {lines : List (List Char)} {number : Nat} {table : GlyphTable}

/-! ### One line -/

theorem takeWhile_eq_iff {p : Char → Bool} {text front : List Char} :
    text.takeWhile p = front ↔
      ∃ rest, text = front ++ rest ∧ (∀ c ∈ front, p c = true) ∧ Stops p rest := by
  constructor
  · rintro rfl
    exact ⟨text.dropWhile p, List.takeWhile_append_dropWhile.symm, fun _ => List.mem_takeWhile_imp,
      stops_dropWhile p text⟩
  · rintro ⟨rest, rfl, all, stops⟩
    rw [takeWhile_append_stops front stops, List.takeWhile_eq_self_iff.mpr all]

/-- Behind blanks, the digits that the field goes on with are the code point of the glyph. -/
def HasCode (field : List Char) (glyph : Char) : Prop :=
  ∃ blanks digits after, field = blanks ++ (digits ++ after) ∧
    (∀ c ∈ blanks, Text.isBlank c = true) ∧ digits ≠ [] ∧ (∀ c ∈ digits, c.isDigit = true) ∧
    (∀ c, after.head? = some c → c.isDigit = false) ∧ Nat.ofDigitChars 10 digits 0 = glyph.toNat

theorem codePoint?_eq_some_iff : codePoint? field = some glyph ↔ HasCode field glyph := by
  constructor
  · intro found
    obtain ⟨blanks, whole, blank⟩ := Text.eq_trimStart field
    obtain ⟨after, parted, all, stops⟩ :=
      takeWhile_eq_iff.mp (Eq.refl ((Text.trimStart field).takeWhile Text.isDigit))
    simp only [codePoint?] at found
    generalize (Text.trimStart field).takeWhile Text.isDigit = digits at found parted all
    split at found
    · cases found
    · next nonempty =>
      split at found
      · next valid =>
        obtain rfl := Option.some.inj found
        rw [parted] at whole
        refine ⟨blanks, digits, after, whole, blank, by simpa using nonempty, all, stops, ?_⟩
        rw [Text.toNat_ofNat_valid valid, Text.ofDigits_eq]
      · cases found
  · rintro ⟨blanks, digits, after, rfl, blank, nonempty, all, stops, code⟩
    have dark : ∀ c ∈ (digits ++ after).head?, Text.isBlank c = false := by
      intro c first
      rw [List.head?_append_of_ne_nil digits nonempty] at first
      exact Text.isBlank_of_isDigit (all c (List.mem_of_head? first))
    have taken : (digits ++ after).takeWhile Text.isDigit = digits :=
      takeWhile_eq_iff.mpr ⟨after, rfl, all, stops⟩
    have valid : glyph.toNat.isValidChar := glyph.valid
    simp only [codePoint?, Text.trimStart_append blank dark, taken, Text.ofDigits_eq, code]
    rw [if_neg (by simpa using nonempty), if_pos valid, Char.ofNat_toNat]

/-- The fields begin with the name of an icon, and the constant is named after it. -/
def NamesIcon (fields : List Char) (constant : String) : Prop :=
  ∃ icon after, fields = icon ++ after ∧ (∀ c ∈ icon, c ≠ '=' ∧ c ≠ '|') ∧
    (∀ c, after.head? = some c → c = '=' ∨ c = '|') ∧
    constant = .ofList ('_' :: icon.map fun c => if c = '-' then '_' else c)

theorem namesIcon_iff :
    NamesIcon fields constant ↔ constantName (fields.takeWhile (· != '=')) = constant := by
  rw [constantName, List.takeWhile_takeWhile]
  constructor
  · rintro ⟨icon, after, rfl, inside, stops, rfl⟩
    rw [takeWhile_eq_iff.mpr ⟨after, rfl, ?_, ?_⟩]
    · intro c member
      simpa [and_comm] using inside c member
    · intro c first
      rcases stops c first with rfl | rfl <;> decide
  · rintro rfl
    obtain ⟨after, parted, inside, stops⟩ := takeWhile_eq_iff.mp (Eq.refl (fields.takeWhile
      fun c => decide (decide (c ≠ '|') = true ∧ (c != '=') = true)))
    refine ⟨_, after, parted, ?_, ?_, rfl⟩
    · intro c member
      simpa [and_comm] using inside c member
    · intro c first
      have stopped := stops c first
      by_cases equals : c = '='
      · exact .inl equals
      · right
        simpa [equals] using stopped

/-- The first field of the line is the code point of a glyph, which is the value of the constant,
and the second one the name of an icon that the constant is named after. -/
def Gives (line : List Char) (constant value : String) : Prop :=
  ∃ code fields glyph, line = code ++ '=' :: fields ∧ '=' ∉ code ∧ HasCode code glyph ∧
    NamesIcon fields constant ∧ value = glyph.toString

theorem entry?_of_free (free : '=' ∉ line) : entry? line = .error () := by
  unfold entry?
  rw [Text.split_of_free free]

theorem entry?_append (free : '=' ∉ field) : entry? (field ++ '=' :: fields) =
    .ok ((codePoint? field).map fun glyph =>
      (constantName (fields.takeWhile (· != '=')), glyph.toString)) := by
  obtain ⟨more, second⟩ := Text.split_first '=' fields
  unfold entry?
  rw [Text.split_append, Text.split_of_free free, second]
  rfl

/-- The entry that a line adds to a table, if it does. -/
def added? (line : List Char) : Option (String × String) :=
  match entry? line with
  | .ok entry => entry
  | .error _ => none

theorem added?_eq_some_iff : added? line = some (constant, value) ↔ Gives line constant value := by
  constructor
  · intro found
    by_cases marked : '=' ∈ line
    · obtain ⟨field, fields, rfl, free⟩ := List.eq_append_cons_of_mem marked
      rw [added?, entry?_append free] at found
      obtain ⟨glyph, code, same⟩ := Option.map_eq_some_iff.mp found
      obtain ⟨named, rfl⟩ := Prod.mk.inj same
      exact ⟨field, fields, glyph, rfl, free, codePoint?_eq_some_iff.mp code,
        namesIcon_iff.mpr named, rfl⟩
    · rw [added?, entry?_of_free marked] at found
      cases found
  · rintro ⟨field, fields, glyph, rfl, free, code, named, rfl⟩
    rw [added?, entry?_append free, codePoint?_eq_some_iff.mpr code, namesIcon_iff.mp named]
    rfl

/-! ### All lines -/

/-- A line that is not empty and has no equals sign. -/
def Unmarked (line : List Char) : Prop := line ≠ [] ∧ '=' ∉ line

theorem readLines_unmarked (unmarked : Unmarked line) :
    readLines number (line :: lines) = .error (.malformedLine number (.ofList line)) := by
  rw [readLines, if_neg (by simpa using unmarked.1), entry?_of_free unmarked.2]

theorem readLines_marked (marked : ¬Unmarked line) : readLines number (line :: lines) =
    (readLines (number + 1) lines).map ((added? line).toList ++ ·) := by
  rw [readLines]
  by_cases empty : line = []
  · subst empty
    rw [if_pos List.isEmpty_nil]
    cases readLines (number + 1) lines <;> rfl
  · have member : '=' ∈ line := by
      by_contra free
      exact marked ⟨empty, free⟩
    obtain ⟨field, fields, rfl, free⟩ := List.eq_append_cons_of_mem member
    rw [if_neg (by simp), added?, entry?_append free]
    cases readLines (number + 1) lines <;> rfl

theorem readLines_error_iff {problem : GlyphError} : readLines number lines = .error problem ↔
    ∃ before line after, lines = before ++ line :: after ∧ (∀ earlier ∈ before, ¬Unmarked earlier) ∧
      Unmarked line ∧ problem = .malformedLine (number + before.length) (.ofList line) := by
  constructor
  · intro failure
    induction lines generalizing number with
    | nil => cases failure
    | cons first lines ih =>
      by_cases here : Unmarked first
      · rw [readLines_unmarked here] at failure
        cases failure
        exact ⟨[], first, lines, rfl, by simp, here, rfl⟩
      · rw [readLines_marked here] at failure
        cases later : readLines (number + 1) lines with
        | ok entries =>
          rw [later] at failure
          cases failure
        | error other =>
          rw [later] at failure
          cases failure
          obtain ⟨before, line, after, rfl, marked, unmarked, rfl⟩ := ih later
          refine ⟨first :: before, line, after, rfl, List.forall_mem_cons.mpr ⟨here, marked⟩,
            unmarked, ?_⟩
          rw [List.length_cons, Nat.add_right_comm, Nat.add_assoc]
  · rintro ⟨before, line, after, rfl, marked, unmarked, rfl⟩
    induction before generalizing number with
    | nil => exact readLines_unmarked unmarked
    | cons first before ih =>
      obtain ⟨here, marked⟩ := List.forall_mem_cons.mp marked
      rw [List.cons_append, readLines_marked here, ih marked, List.length_cons, Nat.add_right_comm,
        Nat.add_assoc]
      rfl

theorem marked_of_readLines {entries : List (String × String)}
    (success : readLines number lines = .ok entries) : ∀ line ∈ lines, ¬Unmarked line := by
  induction lines generalizing number entries with
  | nil => simp
  | cons line lines ih =>
    by_cases here : Unmarked line
    · rw [readLines_unmarked here] at success
      cases success
    · rw [readLines_marked here] at success
      cases later : readLines (number + 1) lines with
      | error problem =>
        rw [later] at success
        cases success
      | ok others => exact List.forall_mem_cons.mpr ⟨here, ih later⟩

theorem readLines_of_marked (marked : ∀ line ∈ lines, ¬Unmarked line) :
    readLines number lines = .ok (lines.filterMap added?) := by
  induction lines generalizing number with
  | nil => rfl
  | cons line lines ih =>
    obtain ⟨here, marked⟩ := List.forall_mem_cons.mp marked
    rw [readLines_marked here, ih marked, List.filterMap_cons]
    cases added? line <;> rfl

/-! ### The table -/

theorem ofText_eq (text : String) : ofText text =
    (readLines 1 (Text.lines text.toList)).map OrderedMap.ofList := by
  rw [ofText, Text.terminatedLines_eq]
  cases readLines 1 (Text.lines text.toList) <;> rfl

theorem ofText_error_iff {text : String} {problem : GlyphError} : ofText text = .error problem ↔
    ∃ before line after, Text.lines text.toList = before ++ line :: after ∧
      (∀ earlier ∈ before, ¬Unmarked earlier) ∧ Unmarked line ∧
      problem = .malformedLine (1 + before.length) (.ofList line) := by
  rw [← readLines_error_iff, ofText_eq]
  cases readLines 1 (Text.lines text.toList) <;> simp [Except.map]

theorem ofText_ok_iff {text : String} : ofText text = .ok table ↔
    (∀ line ∈ Text.lines text.toList, ¬Unmarked line) ∧
      Tabulates Gives (Text.lines text.toList) table := by
  constructor
  · intro success
    rw [ofText_eq] at success
    cases outcome : readLines 1 (Text.lines text.toList) with
    | error problem =>
      rw [outcome] at success
      cases success
    | ok entries =>
      have marked := marked_of_readLines outcome
      rw [readLines_of_marked marked] at success
      obtain rfl := Except.ok.inj success
      exact ⟨marked, tabulates_filterMap added?_eq_some_iff _⟩
  · rintro ⟨marked, tabulates⟩
    rw [ofText_eq, readLines_of_marked marked, (tabulates_iff added?_eq_some_iff).mp tabulates]
    rfl

theorem ofText_fails_iff {text : String} : (∃ problem, ofText text = .error problem) ↔
    ∃ line ∈ Text.lines text.toList, Unmarked line := by
  constructor
  · rintro ⟨problem, failure⟩
    obtain ⟨before, line, after, split, _, unmarked, _⟩ := ofText_error_iff.mp failure
    exact ⟨line, by simp [split], unmarked⟩
  · rintro ⟨line, member, unmarked⟩
    cases outcome : ofText text with
    | error problem => exact ⟨problem, rfl⟩
    | ok table => exact absurd unmarked ((ofText_ok_iff.mp outcome).1 line member)

/-- Reading a table fails if a line that is not empty has no equals sign, and names the first such
line with its number among all lines. Otherwise the table is the one that tabulates the lines.
Carriage returns in front of the newlines of a text that has none change nothing. -/
theorem glyphs_tabulated (text : String) :
    ((∃ problem, ofText text = .error problem) ↔ ∃ line ∈ Text.lines text.toList, Unmarked line) ∧
    (∀ problem, ofText text = .error problem ↔ ∃ before line after,
      Text.lines text.toList = before ++ line :: after ∧ (∀ earlier ∈ before, ¬Unmarked earlier) ∧
      Unmarked line ∧ problem = .malformedLine (1 + before.length) (.ofList line)) ∧
    (∀ table, ofText text = .ok table ↔
      (∀ line ∈ Text.lines text.toList, ¬Unmarked line) ∧
        Tabulates Gives (Text.lines text.toList) table) ∧
    ('\r' ∉ text.toList → ofText (.ofList (Text.withReturns text.toList)) = ofText text) := by
  refine ⟨ofText_fails_iff, fun _ => ofText_error_iff, fun _ => ofText_ok_iff, fun plain => ?_⟩
  rw [ofText_eq, ofText_eq, String.toList_ofList, Text.lines_withReturns plain]

/-- Two icons with the same constant, and between them a line that is empty and one without a
character. -/
def collidingText : String := "65=a-b\n\nx=c\n66=a_b"

theorem colliding_icons_tabulated : '\r' ∉ collidingText.toList ∧
    ofText (.ofList (Text.withReturns collidingText.toList)) = ofText collidingText ∧
    (ofText collidingText).map OrderedMap.entries = .ok [("_a_b", "B")] := by
  have chars : collidingText.toList = _ := String.toList_ofList
  have plain : '\r' ∉ collidingText.toList := by
    rw [chars]
    decide
  obtain ⟨_, _, _, returned⟩ := glyphs_tabulated collidingText
  refine ⟨plain, returned plain, ?_⟩
  rw [ofText, chars]
  rfl

end GlyphTable

end Template

end Blueprint
