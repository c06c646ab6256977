import Blueprint.Toml.Quoted
import Blueprint.Toml.Scalar
import Blueprint.Toml.Table

/-!
Reading TOML text.
-/

namespace Blueprint.Toml

open Text (bind_success)

def orMalformed (result : Option α) : Except Malformed α :=
  match result with
  | some value => .ok value
  | none => .error ⟨⟩

theorem orMalformed_success {result : Option α} {value : α}
    (success : orMalformed result = .ok value) : result = some value := by
  cases result with
  | none => cases success
  | some other => cases success; rfl

def skipBlanks (text : List Char) : List Char := text.dropWhile isBlank

/-- Drops blanks, line ends and comments. -/
def skipLines (text : List Char) : List Char :=
  match text with
  | [] => []
  | c :: rest =>
    if isBlank c || c = '\n' then skipLines rest
    else if c = '\r' && rest.head? = some '\n' then skipLines rest
    else if c = '#' then skipLines (rest.dropWhile isVisible)
    else c :: rest
termination_by text.length
decreasing_by
  · simp
  · simp
  · exact Nat.lt_succ_of_le (Text.length_dropWhile_le isVisible rest)

theorem skipLines_length_le (text : List Char) : (skipLines text).length ≤ text.length := by
  fun_induction skipLines text with
  | case1 => exact Nat.le_refl _
  | case2 _ _ _ ih => exact Nat.le_succ_of_le ih
  | case3 _ _ _ _ ih => exact Nat.le_succ_of_le ih
  | case4 rest _ _ ih =>
    exact Nat.le_succ_of_le (Nat.le_trans ih (Text.length_dropWhile_le isVisible rest))
  | case5 => exact Nat.le_refl _

/-! ### Keys -/

def isKeyChar (c : Char) : Bool :=
  Text.isDigit c || ('a' ≤ c && c ≤ 'z') || ('A' ≤ c && c ≤ 'Z') || c = '_' || c = '-'

/-- One part of a key. -/
def simpleKey (text : List Char) : Except Malformed (String × List Char) :=
  match text with
  | [] => .error ⟨⟩
  | c :: rest =>
    if c = '"' then line .basic [] rest
    else if c = '\'' then line .literal [] rest
    else if isKeyChar c then
      .ok (.ofList (c :: rest.takeWhile isKeyChar), rest.dropWhile isKeyChar)
    else .error ⟨⟩

theorem simpleKey_length_lt {text rest : List Char} {key : String}
    (success : simpleKey text = .ok (key, rest)) : rest.length < text.length := by
  unfold simpleKey at success
  split at success
  · cases success
  · next c after =>
    split at success
    · exact Nat.lt_succ_of_lt (line_length_lt success)
    · split at success
      · exact Nat.lt_succ_of_lt (line_length_lt success)
      · split at success
        · rw [← (Prod.mk.inj (Except.ok.inj success)).2]
          exact Nat.lt_succ_of_le (Text.length_dropWhile_le isKeyChar after)
        · cases success

def simpleKeyReader : Text.Reader Malformed String := ⟨simpleKey, simpleKey_length_lt⟩

/-- The parts of a key, with dots between them; `done` holds those read, last first. -/
def keyPath (done : List String) (text : List Char) :
    Except Malformed (List String × List Char) :=
  match simpleKeyReader.step text with
  | .error problem => .error problem
  | .ok ⟨(key, rest), _⟩ =>
    match _ : skipBlanks rest with
    | '.' :: after => keyPath (key :: done) (skipBlanks after)
    | left =>
      if greatestDepth < (key :: done).length then .error ⟨⟩
      else .ok ((key :: done).reverse, left)
termination_by text.length
decreasing_by
  have blanks := Text.length_dropWhile_le isBlank rest
  have further := Text.length_dropWhile_le isBlank after
  have shape : skipBlanks rest = _ := ‹_›
  have read : rest.length < text.length := ‹_ < _›
  simp only [skipBlanks] at shape ⊢
  rw [shape, List.length_cons] at blanks
  omega

theorem skipBlanks_length_le (text : List Char) : (skipBlanks text).length ≤ text.length :=
  Text.length_dropWhile_le isBlank text

theorem keyPath_length_lt {done path : List String} {text rest : List Char}
    (success : keyPath done text = .ok (path, rest)) : rest.length < text.length := by
  fun_induction keyPath done text with
  | case1 => cases success
  | case2 _ _ _ left shorter _ after shape ih =>
    have := ih success
    have blanks := skipBlanks_length_le left
    have := skipBlanks_length_le after
    rw [shape, List.length_cons] at blanks
    simp only at shorter
    omega
  | case3 => cases success
  | case4 _ _ _ left shorter =>
    rw [← (Prod.mk.inj (Except.ok.inj success)).2]
    exact Nat.lt_of_le_of_lt (skipBlanks_length_le left) shorter

/-! ### Values -/

/-- A scalar is at least one character long. -/
def scalar (text : List Char) : Except Malformed (Value × List Char) :=
  let (run, rest) := scalarRun text
  if rest.length < text.length then do .ok (← orMalformed (scalar? run), rest) else .error ⟨⟩

/-- The items of an array from one of them on, or its end; `done` holds those read, last first. -/
def arrayItems (item : Text.Reader Malformed Value) (done : List Value) (text : List Char) :
    Except Malformed (Value × List Char) :=
  match _ : skipLines text with
  | [] => .error ⟨⟩
  | c :: rest =>
    if c = ']' then .ok (.array done.reverse, rest)
    else match item.step (c :: rest) with
      | .error problem => .error problem
      | .ok ⟨(value, after), _⟩ =>
        match _ : skipLines after with
        | [] => .error ⟨⟩
        | mark :: left =>
          if mark = ',' then arrayItems item (value :: done) left
          else if mark = ']' then .ok (.array (value :: done).reverse, left)
          else .error ⟨⟩
termination_by text.length
decreasing_by
  have whole := skipLines_length_le text
  have behind := skipLines_length_le after
  have read : after.length < (c :: rest).length := ‹_ < _›
  rw [‹skipLines text = _›] at whole
  rw [‹skipLines after = _›, List.length_cons] at behind
  omega

/-- A key, an equals sign and a value. -/
def pair (value : Text.Reader Malformed Value) (text : List Char) :
    Except Malformed ((List String × Value) × List Char) := do
  let (path, rest) ← keyPath [] text
  let rest ← orMalformed (after? '=' rest)
  let (content, rest) ← value.run (skipBlanks rest)
  .ok ((path, content), rest)

theorem after?_length_lt {mark : Char} {text rest : List Char}
    (found : after? mark text = some rest) : rest.length < text.length := by
  unfold after? at found
  split at found
  · split at found
    · cases found; simp
    · cases found
  · cases found

theorem pair_length_lt {value : Text.Reader Malformed Value} {text rest : List Char}
    {read : List String × Value} (success : pair value text = .ok (read, rest)) :
    rest.length < text.length := by
  obtain ⟨⟨path, behindKey⟩, keyed, success⟩ := bind_success success
  obtain ⟨behindMark, marked, success⟩ := bind_success success
  obtain ⟨⟨content, behindValue⟩, valued, success⟩ := bind_success success
  cases success
  have := keyPath_length_lt keyed
  have := after?_length_lt (orMalformed_success marked)
  have := skipBlanks_length_le behindMark
  have := value.advances valued
  simp only at *
  omega

def pairReader (value : Text.Reader Malformed Value) :
    Text.Reader Malformed (List String × Value) :=
  ⟨pair value, pair_length_lt⟩

/-- The pairs of an inline table from one of them on; `done` holds those read, last first. -/
def inlinePairs (value : Text.Reader Malformed Value) (done : List (List String × Value))
    (text : List Char) : Except Malformed (Value × List Char) :=
  match (pairReader value).step text with
  | .error problem => .error problem
  | .ok ⟨(read, after), _⟩ =>
    match _ : skipBlanks after with
    | [] => .error ⟨⟩
    | mark :: left =>
      if mark = ',' then inlinePairs value (read :: done) (skipBlanks left)
      else if mark = '\x7d' then do
        .ok (← orMalformed (inlineTable (read :: done).reverse), left)
      else .error ⟨⟩
termination_by text.length
decreasing_by
  have behind := skipBlanks_length_le after
  have := skipBlanks_length_le left
  have read : after.length < text.length := ‹_ < _›
  rw [‹skipBlanks after = _›, List.length_cons] at behind
  omega

/-- An inline table behind its opening brace. -/
def inlineRest (value : Text.Reader Malformed Value) (text : List Char) :
    Except Malformed (Value × List Char) :=
  match skipBlanks text with
  | '\x7d' :: rest => .ok (.table [], rest)
  | left => inlinePairs value [] left

def stringValue (quote : Quote) (text : List Char) : Except Malformed (Value × List Char) := do
  let (content, rest) ← string quote text
  .ok (.string content, rest)

/-- A value, in which arrays and inline tables are read by `inner`, if any are allowed. -/
def valueText (inner : Option (Text.Reader Malformed Value)) (text : List Char) :
    Except Malformed (Value × List Char) :=
  match text with
  | [] => .error ⟨⟩
  | c :: rest =>
    if c = '"' then stringValue .basic rest
    else if c = '\'' then stringValue .literal rest
    else match c, inner with
      | '[', some value => arrayItems value [] rest
      | '\x7b', some value => inlineRest value rest
      | _, _ => scalar (c :: rest)

theorem arrayItems_length_lt {item : Text.Reader Malformed Value} {done : List Value}
    {text rest : List Char} {value : Value}
    (success : arrayItems item done text = .ok (value, rest)) : rest.length < text.length := by
  fun_induction arrayItems item done text with
  | case1 => cases success
  | case2 _ text _ shape =>
    have whole := skipLines_length_le text
    rw [shape, List.length_cons] at whole
    rw [← (Prod.mk.inj (Except.ok.inj success)).2]
    exact whole
  | case3 => cases success
  | case4 => cases success
  | case5 _ text _ _ shape _ _ after shorter _ _ next ih =>
    have := ih success
    have whole := skipLines_length_le text
    have behind := skipLines_length_le after
    rw [shape] at whole
    rw [next, List.length_cons] at behind
    simp only at shorter
    omega
  | case6 _ text _ _ shape _ _ after shorter _ _ next =>
    have whole := skipLines_length_le text
    have behind := skipLines_length_le after
    rw [shape] at whole
    rw [next, List.length_cons] at behind
    simp only at shorter
    rw [← (Prod.mk.inj (Except.ok.inj success)).2]
    omega
  | case7 => cases success

theorem inlinePairs_length_lt {reader : Text.Reader Malformed Value}
    {done : List (List String × Value)} {text rest : List Char} {value : Value}
    (success : inlinePairs reader done text = .ok (value, rest)) : rest.length < text.length := by
  fun_induction inlinePairs reader done text with
  | case1 => cases success
  | case2 => cases success
  | case3 _ text _ after shorter _ left shape ih =>
    have := ih success
    have behind := skipBlanks_length_le after
    have := skipBlanks_length_le left
    rw [shape, List.length_cons] at behind
    simp only at shorter
    omega
  | case4 done text read after shorter _ left shape =>
    have behind := skipBlanks_length_le after
    rw [shape, List.length_cons] at behind
    simp only at shorter
    obtain ⟨table, built, success⟩ := bind_success success
    cases success
    omega
  | case5 => cases success

theorem inlineRest_length_lt {reader : Text.Reader Malformed Value} {text rest : List Char}
    {value : Value} (success : inlineRest reader text = .ok (value, rest)) :
    rest.length < text.length := by
  have blanks := skipBlanks_length_le text
  unfold inlineRest at success
  split at success
  · next shape =>
    rw [shape, List.length_cons] at blanks
    rw [← (Prod.mk.inj (Except.ok.inj success)).2]
    exact blanks
  · exact Nat.lt_of_lt_of_le (inlinePairs_length_lt success) blanks

theorem stringValue_length_lt {quote : Quote} {text rest : List Char} {value : Value}
    (success : stringValue quote text = .ok (value, rest)) : rest.length < text.length := by
  obtain ⟨⟨content, behind⟩, read, success⟩ := bind_success success
  cases success
  exact string_length_lt read

theorem scalar_length_lt {text rest : List Char} {value : Value}
    (success : scalar text = .ok (value, rest)) : rest.length < text.length := by
  simp only [scalar] at success
  split at success
  · next shorter =>
    obtain ⟨content, read, success⟩ := bind_success success
    cases success
    exact shorter
  · cases success

theorem valueText_length_lt {inner : Option (Text.Reader Malformed Value)}
    {text rest : List Char} {value : Value} (success : valueText inner text = .ok (value, rest)) :
    rest.length < text.length := by
  unfold valueText at success
  split at success
  · cases success
  · split at success
    · exact Nat.lt_succ_of_lt (stringValue_length_lt success)
    · split at success
      · exact Nat.lt_succ_of_lt (stringValue_length_lt success)
      · split at success
        · exact Nat.lt_succ_of_lt (arrayItems_length_lt success)
        · exact Nat.lt_succ_of_lt (inlineRest_length_lt success)
        · exact scalar_length_lt success

/-- Reads a value with at most so many arrays and inline tables around each other. -/
def valueReader : Nat → Text.Reader Malformed Value
  | 0 => ⟨valueText none, valueText_length_lt⟩
  | depth + 1 => ⟨valueText (some (valueReader depth)), valueText_length_lt⟩

/-! ### Statements -/

/-- The key of a header and the brackets behind it. -/
def headerPath (closing : List Char) (text : List Char) :
    Except Malformed ((List String × String) × List Char) := do
  let (path, rest) ← keyPath [] (skipBlanks text)
  match path.getLast? with
  | some name =>
    if closing.isPrefixOf rest then .ok ((path.dropLast, name), rest.drop closing.length)
    else .error ⟨⟩
  | none => .error ⟨⟩

def header (text : List Char) : Except Malformed (Header × List Char) :=
  match text with
  | '[' :: '[' :: rest => do
    let ((parents, name), rest) ← headerPath [']', ']'] rest
    .ok (.element parents name, rest)
  | '[' :: rest => do
    let ((parents, name), rest) ← headerPath [']'] rest
    .ok (.table parents name, rest)
  | _ => .error ⟨⟩

def statement (text : List Char) : Except Malformed (Statement × List Char) :=
  match text with
  | '[' :: _ => do
    let (header, rest) ← header text
    .ok (.header header, rest)
  | _ => do
    let ((path, value), rest) ← pair (valueReader greatestDepth) text
    .ok (.pair path value, rest)

/-- What follows a statement on its line: at most a comment. -/
def lineEnd (text : List Char) : Except Malformed (List Char) :=
  let rest := skipBlanks text
  let rest := if rest.head? = some '#' then rest.dropWhile isVisible else rest
  if rest.isEmpty ∨ startsLine rest then .ok rest else .error ⟨⟩

/-- The statements of a text; `done` holds those read, last first. A statement is at least one
character long. -/
def statements (done : List Statement) (text : List Char) : Except Malformed (List Statement) :=
  match skipLines text with
  | [] => .ok done.reverse
  | c :: rest => do
    let (read, after) ← statement (c :: rest)
    let left ← lineEnd after
    if left.length < text.length then statements (read :: done) left else .error ⟨⟩
termination_by text.length

def byteOrderMark : Char := '\ufeff'

/-- The entries of the table that a text defines. -/
def read (text : String) : Except Malformed (List (String × Value)) := do
  let chars := text.toList
  let body := if chars.head? = some byteOrderMark then chars.drop 1 else chars
  orMalformed (assemble (← statements [] body))

end Blueprint.Toml
