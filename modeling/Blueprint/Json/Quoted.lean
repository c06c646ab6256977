import Blueprint.Json.Fault
import Blueprint.Text.Integer

/-!
Reading the characters of a quoted string.
-/

namespace Blueprint.Json

open Text (bind_success)

/-- The value of four hexadecimal digits. -/
def hexQuad? (digits : List Char) : Option Nat :=
  if digits.length = 4 then Text.hexNumber? digits else none

/-- Four digits are read as four bytes at once, so a bad one is noticed after them. -/
def codeUnit (text : List Char) : Except Fault (Nat × List Char) :=
  match hexQuad? (text.take 4) with
  | some unit => .ok (unit, text.drop 4)
  | none =>
    if byteCount text < 4 then .error (.before .endInString [])
    else .error ⟨.invalidEscape, byteCount text - 4⟩

def isLeadingSurrogate (unit : Nat) : Bool := 0xD800 ≤ unit && unit ≤ 0xDBFF

def isTrailingSurrogate (unit : Nat) : Bool := 0xDC00 ≤ unit && unit ≤ 0xDFFF

/-- The second half of a surrogate pair. -/
def trailingUnit : List Char → Except Fault (Nat × List Char)
  | [] => .error (.before .endInString [])
  | '\\' :: [] => .error (.before .endInString [])
  | '\\' :: 'u' :: rest => do
    let (unit, rest) ← codeUnit rest
    if isTrailingSurrogate unit then .ok (unit, rest)
    else .error (.before .loneSurrogate rest)
  | '\\' :: rest => .error (.on .unfinishedSurrogatePair rest)
  | rest => .error (.on .unfinishedSurrogatePair rest)

/-- What follows `\u`. -/
def unicodeEscape (text : List Char) : Except Fault (Char × List Char) := do
  let (unit, rest) ← codeUnit text
  if isTrailingSurrogate unit then .error (.before .loneSurrogate rest)
  else if isLeadingSurrogate unit then
    let (second, rest) ← trailingUnit rest
    .ok (.ofNat (0x10000 + (unit - 0xD800) * 0x400 + (second - 0xDC00)), rest)
  else .ok (.ofNat unit, rest)

def shortEscape? : Char → Option Char
  | '"' => some '"'
  | '\\' => some '\\'
  | '/' => some '/'
  | 'b' => some '\x08'
  | 'f' => some '\x0c'
  | 'n' => some '\n'
  | 'r' => some '\r'
  | 't' => some '\t'
  | _ => none

/-- What follows a backslash. -/
def escape : List Char → Except Fault (Char × List Char)
  | [] => .error (.before .endInString [])
  | c :: rest =>
    if c = 'u' then unicodeEscape rest
    else match shortEscape? c with
      | some meant => .ok (meant, rest)
      | none => .error (.on .invalidEscape (c :: rest))

theorem codeUnit_length_le {text rest : List Char} {unit : Nat}
    (success : codeUnit text = .ok (unit, rest)) : rest.length ≤ text.length := by
  unfold codeUnit at success
  cases quad : hexQuad? (text.take 4) with
  | none => simp only [quad] at success; split at success <;> cases success
  | some value =>
    simp only [quad, Except.ok.injEq, Prod.mk.injEq] at success
    rw [← success.2, List.length_drop]
    exact Nat.sub_le _ _

theorem trailingUnit_length_le {text rest : List Char} {unit : Nat}
    (success : trailingUnit text = .ok (unit, rest)) : rest.length ≤ text.length := by
  unfold trailingUnit at success
  split at success
  · cases success
  · cases success
  · obtain ⟨⟨second, behind⟩, read, success⟩ := bind_success success
    have := codeUnit_length_le read
    simp only at success
    split at success
    · cases success; simp only [List.length_cons]; omega
    · cases success
  · cases success
  · cases success

theorem unicodeEscape_length_le {text rest : List Char} {c : Char}
    (success : unicodeEscape text = .ok (c, rest)) : rest.length ≤ text.length := by
  obtain ⟨⟨unit, behind⟩, read, success⟩ := bind_success success
  have shorter := codeUnit_length_le read
  simp only at success
  split at success
  · cases success
  · split at success
    · obtain ⟨⟨second, left⟩, paired, success⟩ := bind_success success
      rw [← (Prod.mk.inj (Except.ok.inj success)).2]
      exact Nat.le_trans (trailingUnit_length_le paired) shorter
    · rw [← (Prod.mk.inj (Except.ok.inj success)).2]
      exact shorter

theorem escape_length_lt {text rest : List Char} {c : Char}
    (success : escape text = .ok (c, rest)) : rest.length < text.length := by
  unfold escape at success
  split at success
  · cases success
  · next head after =>
    split at success
    · have := unicodeEscape_length_le success
      simp only [List.length_cons]; omega
    · split at success
      · cases success; simp
      · cases success

def escapeReader : Reader Char := ⟨escape, escape_length_lt⟩

/-- The rest of a string behind its opening quote; `done` holds the characters read, last first. -/
def characters (done : List Char) : List Char → Except Fault (String × List Char)
  | [] => .error (.before .endInString [])
  | c :: rest =>
    if c = '"' then .ok (String.ofList done.reverse, rest)
    else if c = '\\' then
      match escapeReader.step rest with
      | .error fault => .error fault
      | .ok ⟨(meant, after), _⟩ => characters (meant :: done) after
    else if c.toNat < 0x20 then .error (.before .controlCharacter rest)
    else characters (c :: done) rest
termination_by text => text.length
decreasing_by all_goals simp_all <;> omega

theorem characters_length_lt {done text rest : List Char} {value : String}
    (success : characters done text = .ok (value, rest)) : rest.length < text.length := by
  fun_induction characters done text with
  | case1 => cases success
  | case2 => cases success; simp
  | case3 => cases success
  | case4 _ _ _ _ shorter _ _ ih =>
    have := ih success
    simp only [List.length_cons] at shorter ⊢; omega
  | case5 => cases success
  | case6 done c rest notQuote notBackslash notControl ih =>
    have := ih success
    simp only [List.length_cons]; omega

end Blueprint.Json
