import Blueprint.Text.Integer
import Blueprint.Text.Reader
import Blueprint.Toml.Table

/-!
Strings of TOML, on one line or on several, with escapes or without.
-/

namespace Blueprint.Toml

/-- Whether a character may stand in strings and comments. -/
def isVisible (c : Char) : Bool := c == '\t' || (0x20 ≤ c.toNat && c.toNat != 0x7F)

def isBlank (c : Char) : Bool := c == ' ' || c == '\t'

/-- The delimiter of a string, and whether a backslash in it starts an escape. -/
inductive Quote where
  | basic | literal
  deriving DecidableEq, Repr

def Quote.mark : Quote → Char
  | basic => '"'
  | literal => '\''

def codePoint (digits : Nat) (text : List Char) : Except Malformed (Char × List Char) :=
  match Text.hexNumber? (text.take digits) with
  | some code =>
    if digits ≤ text.length ∧ code.isValidChar then .ok (.ofNat code, text.drop digits)
    else .error ⟨⟩
  | none => .error ⟨⟩

def shortEscape? : Char → Option Char
  | '"' => some '"'
  | '\\' => some '\\'
  | 'b' => some '\x08'
  | 'f' => some '\x0c'
  | 'n' => some '\n'
  | 'r' => some '\r'
  | 't' => some '\t'
  | _ => none

/-- What follows a backslash. -/
def escape : List Char → Except Malformed (Char × List Char)
  | [] => .error ⟨⟩
  | c :: rest =>
    if c = 'u' then codePoint 4 rest
    else if c = 'U' then codePoint 8 rest
    else match shortEscape? c with
      | some meant => .ok (meant, rest)
      | none => .error ⟨⟩

theorem codePoint_length_le {digits : Nat} {text rest : List Char} {c : Char}
    (success : codePoint digits text = .ok (c, rest)) : rest.length ≤ text.length := by
  unfold codePoint at success
  split at success
  · split at success
    · rw [← (Prod.mk.inj (Except.ok.inj success)).2, List.length_drop]
      exact Nat.sub_le _ _
    · cases success
  · cases success

theorem escape_length_lt {text rest : List Char} {c : Char}
    (success : escape text = .ok (c, rest)) : rest.length < text.length := by
  unfold escape at success
  split at success
  · cases success
  · split at success
    · exact Nat.lt_succ_of_le (codePoint_length_le success)
    · split at success
      · exact Nat.lt_succ_of_le (codePoint_length_le success)
      · split at success
        · cases success; simp
        · cases success

def escapeReader : Text.Reader Malformed Char := ⟨escape, escape_length_lt⟩

/-- The rest of a string on one line; `done` holds the characters read, last first. -/
def line (quote : Quote) (done : List Char) (text : List Char) :
    Except Malformed (String × List Char) :=
  match text with
  | [] => .error ⟨⟩
  | c :: rest =>
    if c = quote.mark then .ok (.ofList done.reverse, rest)
    else if c = '\\' ∧ quote = .basic then
      match escapeReader.step rest with
      | .error problem => .error problem
      | .ok ⟨(meant, after), _⟩ => line quote (meant :: done) after
    else if isVisible c then line quote (c :: done) rest
    else .error ⟨⟩
termination_by text.length
decreasing_by all_goals simp_all <;> omega

/-- Drops blanks and line ends. -/
def skipBlankLines : List Char → List Char
  | ' ' :: rest => skipBlankLines rest
  | '\t' :: rest => skipBlankLines rest
  | '\n' :: rest => skipBlankLines rest
  | '\r' :: '\n' :: rest => skipBlankLines rest
  | text => text

theorem skipBlankLines_length_le (text : List Char) :
    (skipBlankLines text).length ≤ text.length := by
  fun_induction skipBlankLines text <;> simp_all <;> omega

def startsLine : List Char → Bool
  | '\n' :: _ => true
  | '\r' :: '\n' :: _ => true
  | _ => false

/-- The rest of a string over several lines. Of three to five marks in a row the last three end
it; a backslash at the end of a line joins the next text to it. -/
def block (quote : Quote) (done : List Char) (text : List Char) :
    Except Malformed (String × List Char) :=
  match text with
  | [] => .error ⟨⟩
  | c :: rest =>
    if c = quote.mark then
      let more := (rest.takeWhile (· = quote.mark)).length
      if more < 2 then
        block quote (List.replicate (more + 1) quote.mark ++ done) (rest.drop more)
      else
        let inside := min (more - 2) 2
        .ok (.ofList (List.replicate inside quote.mark ++ done).reverse, rest.drop (inside + 2))
    else if c = '\\' ∧ quote = .basic then
      if startsLine (rest.dropWhile isBlank) then block quote done (skipBlankLines rest)
      else match escapeReader.step rest with
        | .error problem => .error problem
        | .ok ⟨(meant, after), _⟩ => block quote (meant :: done) after
    else if c = '\n' then block quote ('\n' :: done) rest
    else if c = '\r' ∧ rest.head? = some '\n' then block quote done rest
    else if isVisible c then block quote (c :: done) rest
    else .error ⟨⟩
termination_by text.length
decreasing_by
  · simp only [List.length_cons, List.length_drop]; omega
  · exact Nat.lt_succ_of_le (skipBlankLines_length_le rest)
  · have : after.length < rest.length := ‹_ < _›
    simp only [List.length_cons]; omega
  all_goals simp

/-- A line end right behind the opening marks does not count. -/
def dropLineEnd : List Char → List Char
  | '\n' :: rest => rest
  | '\r' :: '\n' :: rest => rest
  | text => text

theorem dropLineEnd_length_le (text : List Char) : (dropLineEnd text).length ≤ text.length := by
  unfold dropLineEnd
  split
  · exact Nat.le_succ _
  · exact Nat.le_add_right _ 2
  · exact Nat.le_refl _

/-- A string behind its first mark. -/
def string (quote : Quote) (text : List Char) : Except Malformed (String × List Char) :=
  if (List.replicate 2 quote.mark).isPrefixOf text then block quote [] (dropLineEnd (text.drop 2))
  else line quote [] text

theorem line_length_lt {quote : Quote} {done text rest : List Char} {value : String}
    (success : line quote done text = .ok (value, rest)) : rest.length < text.length := by
  fun_induction line quote done text with
  | case1 => cases success
  | case2 => cases success; simp
  | case3 => cases success
  | case4 _ _ _ _ _ _ _ shorter _ ih =>
    have := ih success
    simp only [List.length_cons] at shorter ⊢; omega
  | case5 _ _ _ _ _ _ ih =>
    have := ih success
    simp only [List.length_cons]; omega
  | case6 => cases success

theorem block_length_lt {quote : Quote} {done text rest : List Char} {value : String}
    (success : block quote done text = .ok (value, rest)) : rest.length < text.length := by
  fun_induction block quote done text with
  | case1 => cases success
  | case2 _ _ _ _ ih =>
    have := ih success
    simp only [List.length_cons, List.length_drop] at *; omega
  | case3 =>
    rw [← (Prod.mk.inj (Except.ok.inj success)).2]
    simp only [List.length_cons, List.length_drop]; omega
  | case4 _ _ after _ _ _ ih =>
    have := ih success
    have := skipBlankLines_length_le after
    simp only [List.length_cons]; omega
  | case5 => cases success
  | case6 _ _ _ _ _ _ _ _ shorter _ ih =>
    have := ih success
    simp only [List.length_cons] at shorter ⊢; omega
  | case7 _ _ _ _ ih =>
    have := ih success
    simp only [List.length_cons]; omega
  | case8 _ _ _ _ _ _ _ ih =>
    have := ih success
    simp only [List.length_cons]; omega
  | case9 _ _ _ _ _ _ _ _ ih =>
    have := ih success
    simp only [List.length_cons]; omega
  | case10 => cases success

theorem string_length_lt {quote : Quote} {text rest : List Char} {value : String}
    (success : string quote text = .ok (value, rest)) : rest.length < text.length := by
  unfold string at success
  split at success
  · have shorter := block_length_lt success
    have dropped := dropLineEnd_length_le (text.drop 2)
    rw [List.length_drop] at dropped
    omega
  · exact line_length_lt success

end Blueprint.Toml
