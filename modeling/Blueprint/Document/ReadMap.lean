import Blueprint.Document.Decode
import Blueprint.Json.Reader

/-!
Reading the text of one JSON object as a map, without a JSON value in between: the members are
inserted as they come. A value of another type than the one expected is refused where it ends, and a
list or an object where it begins.
-/

namespace Blueprint

/-- A fault of the text, or a value that is refused when so many bytes are left. -/
inductive MapFault where
  | malformed (fault : Json.Fault)
  | refused (found : Json) (expected : Expectation) (unread : Nat)

inductive MapError where
  | malformed (cause : Json.SyntaxError)
  | refused (found : Json) (expected : Expectation) (position : Json.Position)

def MapError.message : MapError → String
  | malformed cause => cause.message
  | refused found expected position =>
    position.describe (DecodeError.wrongType found expected).message

def MapFault.locate (text : List Char) : MapFault → MapError
  | malformed fault => .malformed (fault.locate text)
  | refused found expected unread => .refused found expected (.ofUnread text unread)

namespace OrderedMap

open Text (bind_success)

variable {V : Type}

/-- Refuses the value that begins with `c`. -/
def refuse (expected : Expectation) (c : Char) (rest : List Char) : MapFault :=
  if c = '\x7b' then .refused (.object []) expected (Json.byteCount (c :: rest))
  else if c = '[' then .refused (.array []) expected (Json.byteCount (c :: rest))
  else match Json.scalar c rest with
    | .error fault => .malformed fault
    | .ok (value, after) => .refused value expected (Json.byteCount after)

/-! ### Values -/

/-- A reader of values of one type. -/
abbrev ValueReader (V : Type) := Text.Reader MapFault V

theorem mapError_ok {first : Except Json.Fault V} {value : V}
    (success : first.mapError MapFault.malformed = .ok value) : first = .ok value := by
  cases first with
  | error fault => cases success
  | ok read => cases success; rfl

/-- Values of any type, with at most so many lists and objects around each other. -/
def anyValue (depth : Nat) : ValueReader Json where
  run text := ((Json.valueReader depth).run text).mapError .malformed
  advances success := (Json.valueReader depth).advances (mapError_ok success)

def stringText (text : List Char) : Except MapFault (String × List Char) :=
  match Json.skipBlanks text with
  | [] => .error (.malformed (.on .endInValue []))
  | c :: rest =>
    if c = '"' then (Json.characters [] rest).mapError .malformed
    else .error (refuse .text c rest)

theorem stringText_length_lt {text rest : List Char} {value : String}
    (success : stringText text = .ok (value, rest)) : rest.length < text.length := by
  unfold stringText at success
  split at success
  · cases success
  · next shape =>
    have := Json.rest_lt_of_skipBlanks shape
    split at success
    · have := Json.characters_length_lt (mapError_ok success)
      omega
    · cases success

def stringValue : ValueReader String := ⟨stringText, stringText_length_lt⟩

/-! ### Keys -/

/-- A key and the colon behind it. -/
def keyText : List Char → Except Json.Fault (Option String × List Char)
  | [] => .error (.before .endInValue [])
  | c :: rest =>
    if c = '"' then do
      let (key, rest) ← Json.characters [] rest
      let rest ← Json.colon rest
      .ok (some key, rest)
    else .error (.on .keyNotString (c :: rest))

/-- The key of the next member, or none at the closing brace. A comma is in front of every member
but the first. -/
def nextKey (isFirst : Bool) (text : List Char) : Except Json.Fault (Option String × List Char) :=
  match Json.skipBlanks text with
  | [] => .error (.on .endInObject [])
  | c :: rest =>
    if c = '\x7d' then .ok (none, rest)
    else if isFirst then keyText (c :: rest)
    else if c = ',' then
      if (Json.skipBlanks rest).head? = some '\x7d' then
        .error (.on .trailingComma (Json.skipBlanks rest))
      else keyText (Json.skipBlanks rest)
    else .error (.on .expectedObjectEnd (c :: rest))

theorem keyText_length_lt {text rest : List Char} {key : Option String}
    (success : keyText text = .ok (key, rest)) : rest.length < text.length := by
  unfold keyText at success
  split at success
  · cases success
  · split at success
    · obtain ⟨⟨name, behind⟩, keyed, success⟩ := bind_success success
      obtain ⟨left, parted, success⟩ := bind_success success
      cases success
      have := Json.characters_length_lt keyed
      have := Json.colon_length_lt parted
      simp only [List.length_cons]
      omega
    · cases success

theorem nextKey_length_lt {isFirst : Bool} {text rest : List Char} {key : Option String}
    (success : nextKey isFirst text = .ok (key, rest)) : rest.length < text.length := by
  unfold nextKey at success
  split at success
  · cases success
  · next c left shape =>
    have whole := Json.skipBlanks_length_le text
    rw [shape, List.length_cons] at whole
    split at success
    · cases success; omega
    · split at success
      · have := keyText_length_lt success
        simp only [List.length_cons] at this
        omega
      · split at success
        · split at success
          · cases success
          · have := keyText_length_lt success
            have := Json.skipBlanks_length_le left
            omega
        · cases success

def keyReader (isFirst : Bool) : Json.Reader (Option String) :=
  ⟨nextKey isFirst, nextKey_length_lt⟩

/-! ### Maps -/

/-- Inserts the members of an object one after the other, from a place in the object on. -/
def collect (value : ValueReader V) (isFirst : Bool) (map : OrderedMap V) (text : List Char) :
    Except MapFault (OrderedMap V × List Char) :=
  match (keyReader isFirst).step text with
  | .error fault => .error (.malformed fault)
  | .ok ⟨(none, rest), _⟩ => .ok (map, rest)
  | .ok ⟨(some key, behind), _⟩ =>
    match value.step behind with
    | .error fault => .error fault
    | .ok ⟨(item, after), _⟩ => collect value false (map.insert key item) after
termination_by text.length
decreasing_by
  have keyed : behind.length < text.length := ‹_›
  have read : after.length < behind.length := ‹_›
  omega

def mapText (value : ValueReader V) (text : List Char) :
    Except MapFault (OrderedMap V × List Char) :=
  match Json.skipBlanks text with
  | [] => .error (.malformed (.on .endInValue []))
  | c :: rest =>
    if c = '\x7b' then collect value true .empty rest else .error (refuse .map c rest)

def readChars (value : ValueReader V) (text : List Char) : Except MapFault (OrderedMap V) := do
  let (map, rest) ← mapText value text
  (Json.finish map rest).mapError .malformed

def readWith (value : ValueReader V) (text : String) : Except MapError (OrderedMap V) :=
  (readChars value text.toList).mapError (MapFault.locate text.toList)

/-- The object around the values counts as one of the levels. -/
def read (text : String) : Except MapError (OrderedMap Json) :=
  readWith (anyValue (Json.greatestDepth - 1)) text

def readStrings (text : String) : Except MapError (OrderedMap String) := readWith stringValue text

end OrderedMap

end Blueprint
