import Blueprint.Text.Printable
import Blueprint.Text.Utf8

/-!
Text made visible: quotes, backslashes and characters that cannot be shown are written as escapes.
-/

namespace Blueprint.Text

/-- What is escaped besides backslashes, controls and whatever cannot be shown. -/
structure EscapeStyle where
  single : Bool
  double : Bool
  /-- Whether characters that join the one before them are escaped. -/
  extending : Bool
  deriving DecidableEq, Repr

def hexText (n : Nat) : List Char := Nat.toDigits 16 n

def codePointEscape (c : Char) : List Char :=
  '\\' :: 'u' :: '\x7b' :: (hexText c.toNat ++ ['\x7d'])

def EscapeStyle.escape (style : EscapeStyle) (c : Char) : List Char :=
  if c = '\x00' then ['\\', '0']
  else if c = '\t' then ['\\', 't']
  else if c = '\r' then ['\\', 'r']
  else if c = '\n' then ['\\', 'n']
  else if c = '\\' then ['\\', '\\']
  else if c = '"' && style.double then ['\\', '"']
  else if c = '\'' && style.single then ['\\', '\'']
  else if style.extending && isExtending c then codePointEscape c
  else if isPrintable c then [c]
  else codePointEscape c

/-- Text between double quotes. -/
def quoted (text : String) : String :=
  .ofList ('"' :: (text.toList.flatMap (EscapeStyle.mk false true true).escape ++ ['"']))

/-- Broken pieces of text are shown byte by byte. -/
def EscapeStyle.escapePiece (style : EscapeStyle) : Piece → List Char
  | .char c => style.escape c
  | .broken bytes =>
    bytes.flatMap fun byte => '\\' :: 'x' :: (hexText byte.toNat).map Char.toUpper

/-- Bytes that need not be text between double quotes. -/
def quotedBytes (bytes : List UInt8) : String :=
  .ofList ('"' :: ((pieces bytes).flatMap (EscapeStyle.mk false true true).escapePiece ++ ['"']))

/-- Text on one line without quotes around it. A joining character is escaped only where there is
nothing before it to join. -/
def visible (text : String) : String :=
  match text.toList with
  | [] => ""
  | c :: rest =>
    .ofList ((EscapeStyle.mk true true true).escape c
      ++ rest.flatMap (EscapeStyle.mk true true false).escape)

end Blueprint.Text
