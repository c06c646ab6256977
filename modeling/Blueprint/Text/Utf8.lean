/-!
Text as bytes, and bytes as text. What is no text stays apart as broken pieces, each one as long as
it could still have become a character.
-/

namespace Blueprint.Text

def utf8 (text : String) : List UInt8 := text.toUTF8.data.toList

/-- The text that bytes are, if they are text. -/
def ofUtf8? (bytes : List UInt8) : Option String := String.fromUTF8? ⟨bytes.toArray⟩

/-- A character of several bytes as far as it has been read. -/
structure Begun where
  bytes : List UInt8
  /-- The bits of its code point that are known. -/
  value : Nat
  missing : Nat
  /-- The bounds of the next byte. They keep out surrogates, code points that are too large, and
  those that fewer bytes suffice for. -/
  least : Nat
  greatest : Nat
  deriving DecidableEq, Repr

/-- First bytes of characters, and what they say about the rest. -/
structure Lead where
  first : Nat
  last : Nat
  /-- What the first byte is without any bits of the code point. -/
  base : Nat
  missing : Nat
  least : Nat
  greatest : Nat

def leads : List Lead := [
  ⟨0xC2, 0xDF, 0xC0, 1, 0x80, 0xBF⟩, ⟨0xE0, 0xE0, 0xE0, 2, 0xA0, 0xBF⟩,
  ⟨0xE1, 0xEC, 0xE0, 2, 0x80, 0xBF⟩, ⟨0xED, 0xED, 0xE0, 2, 0x80, 0x9F⟩,
  ⟨0xEE, 0xEF, 0xE0, 2, 0x80, 0xBF⟩, ⟨0xF0, 0xF0, 0xF0, 3, 0x90, 0xBF⟩,
  ⟨0xF1, 0xF3, 0xF0, 3, 0x80, 0xBF⟩, ⟨0xF4, 0xF4, 0xF0, 3, 0x80, 0x8F⟩]

/-- A piece of bytes that are read as text. -/
inductive Piece where
  | char (c : Char)
  | broken (bytes : List UInt8)
  deriving DecidableEq, Repr

/-- The pieces that a byte completes where no character has begun, and the character that it
begins. -/
def beginWith (byte : UInt8) : List Piece × Option Begun :=
  if byte.toNat < 0x80 then ([.char (.ofNat byte.toNat)], none)
  else match leads.find? fun lead => lead.first ≤ byte.toNat ∧ byte.toNat ≤ lead.last with
    | some lead =>
      ([], some ⟨[byte], byte.toNat - lead.base, lead.missing, lead.least, lead.greatest⟩)
    | none => ([.broken [byte]], none)

/-- The same where a character has begun. -/
def Begun.continueWith (begun : Begun) (byte : UInt8) : List Piece × Option Begun :=
  if begun.least ≤ byte.toNat ∧ byte.toNat ≤ begun.greatest then
    let value := 64 * begun.value + (byte.toNat - 0x80)
    if begun.missing ≤ 1 then ([.char (.ofNat value)], none)
    else ([], some ⟨begun.bytes ++ [byte], value, begun.missing - 1, 0x80, 0xBF⟩)
  else
    let result := beginWith byte
    (.broken begun.bytes :: result.1, result.2)

def piecesFrom : Option Begun → List UInt8 → List Piece
  | none, [] => []
  | some begun, [] => [.broken begun.bytes]
  | none, byte :: rest => (beginWith byte).1 ++ piecesFrom (beginWith byte).2 rest
  | some begun, byte :: rest =>
    (begun.continueWith byte).1 ++ piecesFrom (begun.continueWith byte).2 rest

def pieces (bytes : List UInt8) : List Piece := piecesFrom none bytes

/-- Broken pieces are shown by the replacement character. -/
def Piece.shown : Piece → Char
  | char c => c
  | broken _ => '\uFFFD'

/-- Bytes as text, whatever they are. -/
def shown (bytes : List UInt8) : String := .ofList ((pieces bytes).map Piece.shown)

end Blueprint.Text
