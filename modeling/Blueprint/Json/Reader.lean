import Blueprint.OrderedMap
import Blueprint.Json.Quoted
import Blueprint.Json.Numeral

/-!
Reading JSON text. In an object with a repeated key the first place and the last value count.
-/

namespace Blueprint.Json

open Text (bind_success)

/-- The letters of a literal after its first. -/
def literal (value : Json) : List Char → List Char → Except Fault (Json × List Char)
  | [], rest => .ok (value, rest)
  | _ :: _, [] => .error (.before .endInValue [])
  | letter :: letters, c :: rest =>
    if c = letter then literal value letters rest
    else .error (.on .expectedIdent (c :: rest))

def stringValue (text : List Char) : Except Fault (Json × List Char) := do
  let (value, rest) ← characters [] text
  .ok (.string value, rest)

def numberValue (negative : Bool) (text : List Char) : Except Fault (Json × List Char) := do
  let (value, rest) ← unsignedNumber negative text
  .ok (.number value, rest)

/-- A value that is neither list nor object and begins with `c`. -/
def scalar (c : Char) (rest : List Char) : Except Fault (Json × List Char) :=
  if c = 'n' then literal .null ['u', 'l', 'l'] rest
  else if c = 't' then literal (.bool true) ['r', 'u', 'e'] rest
  else if c = 'f' then literal (.bool false) ['a', 'l', 's', 'e'] rest
  else if c = '"' then stringValue rest
  else if c = '-' then numberValue true rest
  else if Text.isDigit c then numberValue false (c :: rest)
  else .error (.on .expectedValue (c :: rest))

/-- The rest of a list behind an item; `done` holds the items read, last first. -/
def itemsAfter (item : Reader Json) (done : List Json) (text : List Char) :
    Except Fault (Json × List Char) :=
  match _ : skipBlanks text with
  | [] => .error (.on .endInList [])
  | c :: rest =>
    if c = ']' then .ok (.array done.reverse, rest)
    else if c = ',' then
      if (skipBlanks rest).head? = some ']' then .error (.on .trailingComma (skipBlanks rest))
      else match item.step (skipBlanks rest) with
        | .error fault => .error fault
        | .ok ⟨(value, after), _⟩ => itemsAfter item (value :: done) after
    else .error (.on .expectedListEnd (c :: rest))
termination_by text.length
decreasing_by
  have whole := skipBlanks_length_le text
  rw [‹skipBlanks text = _›, List.length_cons] at whole
  have item : after.length < (skipBlanks rest).length := ‹_ < _›
  have := skipBlanks_length_le rest
  omega

/-- A list behind its opening bracket. -/
def listRest (item : Reader Json) (text : List Char) : Except Fault (Json × List Char) :=
  match skipBlanks text with
  | [] => .error (.on .endInList [])
  | c :: rest =>
    if c = ']' then .ok (.array [], rest)
    else do
      let (value, after) ← item.run (c :: rest)
      itemsAfter item [value] after

/-- What stands between a key and its value. -/
def colon (text : List Char) : Except Fault (List Char) :=
  match skipBlanks text with
  | [] => .error (.on .endInObject [])
  | c :: rest => if c = ':' then .ok rest else .error (.on .expectedColon (c :: rest))

/-- A key, a colon and a value. -/
def member (value : Reader Json) (text : List Char) :
    Except Fault ((String × Json) × List Char) :=
  match text with
  | [] => .error (.on .endInValue [])
  | c :: rest =>
    if c = '"' then do
      let (key, rest) ← characters [] rest
      let rest ← colon rest
      let (value, rest) ← value.run rest
      .ok ((key, value), rest)
    else .error (.on .keyNotString (c :: rest))

/-- The object with the members read, last first. -/
def ofMembers (done : List (String × Json)) : Json :=
  .object (OrderedMap.ofList done.reverse).entries

theorem colon_length_lt {text rest : List Char} (success : colon text = .ok rest) :
    rest.length < text.length := by
  have shorter := skipBlanks_length_le text
  unfold colon at success
  split at success
  · cases success
  · next shape =>
    rw [shape, List.length_cons] at shorter
    split at success
    · cases success; omega
    · cases success

theorem member_length_lt {value : Reader Json} {text rest : List Char} {read : String × Json}
    (success : member value text = .ok (read, rest)) : rest.length < text.length := by
  unfold member at success
  split at success
  · cases success
  · split at success
    · obtain ⟨⟨key, behindKey⟩, keyed, success⟩ := bind_success success
      obtain ⟨behindColon, parted, success⟩ := bind_success success
      obtain ⟨⟨item, behindItem⟩, valued, success⟩ := bind_success success
      cases success
      have := characters_length_lt keyed
      have := colon_length_lt parted
      have := value.advances valued
      simp only [List.length_cons]
      omega
    · cases success

def memberReader (value : Reader Json) : Reader (String × Json) :=
  ⟨member value, member_length_lt⟩

/-- The rest of an object behind a member. -/
def membersAfter (value : Reader Json) (done : List (String × Json)) (text : List Char) :
    Except Fault (Json × List Char) :=
  match _ : skipBlanks text with
  | [] => .error (.on .endInObject [])
  | c :: rest =>
    if c = '\x7d' then .ok (ofMembers done, rest)
    else if c = ',' then
      if (skipBlanks rest).head? = some '\x7d' then .error (.on .trailingComma (skipBlanks rest))
      else match (memberReader value).step (skipBlanks rest) with
        | .error fault => .error fault
        | .ok ⟨(read, after), _⟩ => membersAfter value (read :: done) after
    else .error (.on .expectedObjectEnd (c :: rest))
termination_by text.length
decreasing_by
  have whole := skipBlanks_length_le text
  rw [‹skipBlanks text = _›, List.length_cons] at whole
  have item : after.length < (skipBlanks rest).length := ‹_ < _›
  have := skipBlanks_length_le rest
  omega

/-- An object behind its opening brace. -/
def objectRest (value : Reader Json) (text : List Char) : Except Fault (Json × List Char) :=
  match skipBlanks text with
  | [] => .error (.on .endInObject [])
  | c :: rest =>
    if c = '\x7d' then .ok (.object [], rest)
    else do
      let (read, after) ← member value (c :: rest)
      membersAfter value [read] after

/-- A value, in which lists and objects are read by `inner`, if any are allowed. -/
def valueText (inner : Option (Reader Json)) (text : List Char) :
    Except Fault (Json × List Char) :=
  match skipBlanks text with
  | [] => .error (.on .endInValue [])
  | c :: rest =>
    if c = '[' ∨ c = '\x7b' then
      match inner with
      | none => .error (.on .recursionLimit (c :: rest))
      | some value => if c = '[' then listRest value rest else objectRest value rest
    else scalar c rest

theorem literal_length_le {value read : Json} {letters text rest : List Char}
    (success : literal value letters text = .ok (read, rest)) : rest.length ≤ text.length := by
  induction letters generalizing text with
  | nil =>
    simp only [literal, Except.ok.injEq, Prod.mk.injEq] at success
    exact success.2 ▸ Nat.le_refl _
  | cons letter letters ih =>
    cases text with
    | nil => cases success
    | cons c after =>
      unfold literal at success
      split at success
      · have := ih success; simp only [List.length_cons]; omega
      · cases success

theorem numberValue_length_lt {negative : Bool} {text rest : List Char} {value : Json}
    (success : numberValue negative text = .ok (value, rest)) : rest.length < text.length := by
  obtain ⟨⟨number, behind⟩, read, success⟩ := bind_success success
  cases success
  exact unsignedNumber_length_lt read

theorem stringValue_length_lt {text rest : List Char} {value : Json}
    (success : stringValue text = .ok (value, rest)) : rest.length < text.length := by
  obtain ⟨⟨content, behind⟩, read, success⟩ := bind_success success
  cases success
  exact characters_length_lt read

theorem scalar_length_le {c : Char} {text rest : List Char} {value : Json}
    (success : scalar c text = .ok (value, rest)) : rest.length ≤ text.length := by
  unfold scalar at success
  split at success; · exact literal_length_le success
  split at success; · exact literal_length_le success
  split at success; · exact literal_length_le success
  split at success; · exact Nat.le_of_lt (stringValue_length_lt success)
  split at success; · exact Nat.le_of_lt (numberValue_length_lt success)
  split at success; · exact Nat.le_of_lt_succ (numberValue_length_lt success)
  cases success

theorem rest_lt_of_skipBlanks {text rest : List Char} {c : Char}
    (shape : skipBlanks text = c :: rest) : rest.length < text.length := by
  have := skipBlanks_length_le text
  rw [shape, List.length_cons] at this
  omega

theorem itemsAfter_length_lt {item : Reader Json} {done : List Json} {text rest : List Char}
    {value : Json} (success : itemsAfter item done text = .ok (value, rest)) :
    rest.length < text.length := by
  fun_induction itemsAfter item done text with
  | case1 => cases success
  | case2 _ _ _ shape => cases success; exact rest_lt_of_skipBlanks shape
  | case3 => cases success
  | case4 => cases success
  | case5 _ _ comma _ _ _ shorter _ shape _ ih =>
    have := ih success
    have := rest_lt_of_skipBlanks shape
    have := skipBlanks_length_le comma
    simp only at shorter
    omega
  | case6 => cases success

theorem membersAfter_length_lt {value : Reader Json} {done : List (String × Json)}
    {text rest : List Char} {object : Json}
    (success : membersAfter value done text = .ok (object, rest)) : rest.length < text.length := by
  fun_induction membersAfter value done text with
  | case1 => cases success
  | case2 _ _ _ shape => cases success; exact rest_lt_of_skipBlanks shape
  | case3 => cases success
  | case4 => cases success
  | case5 _ _ comma _ _ _ shorter _ shape _ ih =>
    have := ih success
    have := rest_lt_of_skipBlanks shape
    have := skipBlanks_length_le comma
    simp only at shorter
    omega
  | case6 => cases success

theorem listRest_length_lt {item : Reader Json} {text rest : List Char} {value : Json}
    (success : listRest item text = .ok (value, rest)) : rest.length < text.length := by
  unfold listRest at success
  split at success
  · cases success
  · next c after shape =>
    have := rest_lt_of_skipBlanks shape
    split at success
    · cases success; assumption
    · obtain ⟨⟨first, behind⟩, read, success⟩ := bind_success success
      have := item.advances read
      have := itemsAfter_length_lt success
      simp only [List.length_cons] at *
      omega

theorem objectRest_length_lt {value : Reader Json} {text rest : List Char} {object : Json}
    (success : objectRest value text = .ok (object, rest)) : rest.length < text.length := by
  unfold objectRest at success
  split at success
  · cases success
  · next c after shape =>
    have := rest_lt_of_skipBlanks shape
    split at success
    · cases success; assumption
    · obtain ⟨⟨first, behind⟩, read, success⟩ := bind_success success
      have := member_length_lt read
      have := membersAfter_length_lt success
      simp only [List.length_cons] at *
      omega

theorem valueText_length_lt {inner : Option (Reader Json)} {text rest : List Char} {value : Json}
    (success : valueText inner text = .ok (value, rest)) : rest.length < text.length := by
  unfold valueText at success
  split at success
  · cases success
  · next c after shape =>
    have := rest_lt_of_skipBlanks shape
    split at success
    · split at success
      · cases success
      · split at success
        · have := listRest_length_lt success; omega
        · have := objectRest_length_lt success; omega
    · have := scalar_length_le success; omega

/-- Reads a value with at most so many lists and objects around each other. -/
def valueReader : Nat → Reader Json
  | 0 => ⟨valueText none, valueText_length_lt⟩
  | depth + 1 => ⟨valueText (some (valueReader depth)), valueText_length_lt⟩

def greatestDepth : Nat := 127

structure SyntaxError where
  cause : SyntaxCause
  position : Position
  deriving DecidableEq, Repr

def SyntaxError.message (error : SyntaxError) : String :=
  error.position.describe error.cause.message

/-- Only blanks may follow the value of a text. -/
def finish (value : α) (rest : List Char) : Except Fault α :=
  match skipBlanks rest with
  | [] => .ok value
  | left => .error (.on .trailingCharacters left)

def readChars (text : List Char) : Except Fault Json := do
  let (value, rest) ← (valueReader greatestDepth).run text
  finish value rest

def Fault.locate (text : List Char) (fault : Fault) : SyntaxError :=
  ⟨fault.cause, fault.position text⟩

def read (text : String) : Except SyntaxError Json :=
  (readChars text.toList).mapError (Fault.locate text.toList)

end Blueprint.Json
