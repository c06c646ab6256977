import Blueprint.Text.Reader

/-!
Syntax errors of JSON text, where in the text they are, and its blanks.
-/

namespace Blueprint.Json

inductive SyntaxCause where
  | endInValue | endInList | endInObject | endInString
  | expectedValue | expectedIdent | expectedColon | expectedListEnd | expectedObjectEnd
  | keyNotString | trailingComma | trailingCharacters
  | invalidNumber | numberOutOfRange
  | invalidEscape | controlCharacter | loneSurrogate | unfinishedSurrogatePair
  | recursionLimit
  deriving DecidableEq, Repr

def SyntaxCause.message : SyntaxCause → String
  | .endInValue => "EOF while parsing a value"
  | .endInList => "EOF while parsing a list"
  | .endInObject => "EOF while parsing an object"
  | .endInString => "EOF while parsing a string"
  | .expectedValue => "expected value"
  | .expectedIdent => "expected ident"
  | .expectedColon => "expected `:`"
  | .expectedListEnd => "expected `,` or `]`"
  | .expectedObjectEnd => "expected `,` or `\x7d`"
  | .keyNotString => "key must be a string"
  | .trailingComma => "trailing comma"
  | .trailingCharacters => "trailing characters"
  | .invalidNumber => "invalid number"
  | .numberOutOfRange => "number out of range"
  | .invalidEscape => "invalid escape"
  | .controlCharacter => "control character (\\u0000-\\u001F) found while parsing a string"
  | .loneSurrogate => "lone leading surrogate in hex escape"
  | .unfinishedSurrogatePair => "unexpected end of hex escape"
  | .recursionLimit => "recursion limit exceeded"

/-- The number of bytes of the text's encoding. -/
def byteCount (text : List Char) : Nat := text.foldr (fun c count => c.utf8Size + count) 0

/-- A cause, and how many bytes of the text lie behind the place it was noticed at. -/
structure Fault where
  cause : SyntaxCause
  unread : Nat
  deriving DecidableEq, Repr

/-- Noticed after reading everything before `rest`. -/
def Fault.before (cause : SyntaxCause) (rest : List Char) : Fault := ⟨cause, byteCount rest⟩

/-- Noticed on looking at the first byte of `rest`. -/
def Fault.on (cause : SyntaxCause) (rest : List Char) : Fault := ⟨cause, byteCount rest - 1⟩

/-- A line, counted from one, and the number of bytes read in it. -/
structure Position where
  line : Nat
  column : Nat
  deriving DecidableEq, Repr

/-- The position reached after a number of bytes, which may end inside a character. -/
def Position.after (position : Position) : Nat → List Char → Position
  | _, [] => position
  | bytes, c :: rest =>
    if bytes < c.utf8Size then { position with column := position.column + bytes }
    else if c = '\n' then Position.after ⟨position.line + 1, 0⟩ (bytes - 1) rest
    else Position.after { position with column := position.column + c.utf8Size }
      (bytes - c.utf8Size) rest

def Position.start : Position := ⟨1, 0⟩

/-- The position in a text when so many bytes are left. -/
def Position.ofUnread (text : List Char) (unread : Nat) : Position :=
  Position.start.after (byteCount text - unread) text

def Fault.position (fault : Fault) (text : List Char) : Position := .ofUnread text fault.unread

def Position.describe (position : Position) (problem : String) : String :=
  s!"{problem} at line {position.line} column {position.column}"

/-- A reader of a piece of JSON text. -/
abbrev Reader (α : Type) := Text.Reader Fault α

def isBlank (c : Char) : Bool := c = ' ' || c = '\t' || c = '\n' || c = '\r'

def skipBlanks (text : List Char) : List Char := text.dropWhile isBlank

theorem skipBlanks_length_le (text : List Char) : (skipBlanks text).length ≤ text.length :=
  Text.length_dropWhile_le isBlank text

end Blueprint.Json
