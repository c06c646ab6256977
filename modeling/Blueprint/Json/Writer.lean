import Blueprint.Decimal.Shortest
import Blueprint.Json.Value

/-!
Writing JSON text, on one line or with a line for each item.
-/

namespace Blueprint

namespace Number

def digitsOf (n : Nat) : List Char := Nat.toDigits 10 n

def integerText (n : Int) : List Char :=
  if n < 0 then '-' :: digitsOf n.natAbs else digitsOf n.natAbs

/-- Doubles from `10^-5` up to `10^16` are written out, others with one digit before the point and
an exponent. -/
def decimalText (s : Decimal.Scientific) : List Char :=
  let digits := digitsOf s.digits
  let point : Int := digits.length + s.exponent
  if 0 ≤ s.exponent ∧ point ≤ 16 then
    digits ++ List.replicate s.exponent.toNat '0' ++ ['.', '0']
  else if 0 < point ∧ point ≤ 16 then
    digits.take point.toNat ++ '.' :: digits.drop point.toNat
  else if -5 < point ∧ point ≤ 0 then
    '0' :: '.' :: List.replicate (-point).toNat '0' ++ digits
  else
    let fraction := if digits.length = 1 then [] else '.' :: digits.drop 1
    let sign := if point ≥ 1 then '+' else '-'
    digits.take 1 ++ fraction ++ 'e' :: sign :: digitsOf (point - 1).natAbs

def doubleText (x : Decimal.Binary64) : List Char :=
  let magnitude := decimalText (Decimal.shortest x)
  if x.negative then '-' :: magnitude else magnitude

def text : Number → List Char
  | .integer n => integerText n
  | .double x => doubleText x

end Number

namespace Json

def hexDigit (n : Nat) : Char := if n < 10 then .ofNat (48 + n) else .ofNat (87 + n)

def escaped (c : Char) : List Char :=
  if c = '"' then ['\\', '"']
  else if c = '\\' then ['\\', '\\']
  else if c = '\x08' then ['\\', 'b']
  else if c = '\x0c' then ['\\', 'f']
  else if c = '\n' then ['\\', 'n']
  else if c = '\r' then ['\\', 'r']
  else if c = '\t' then ['\\', 't']
  else if c.toNat < 0x20 then
    ['\\', 'u', '0', '0', hexDigit (c.toNat / 16), hexDigit (c.toNat % 16)]
  else [c]

def quoted (text : String) : List Char := '"' :: (text.toList.flatMap escaped ++ ['"'])

/-- The blanks between tokens: what a line at some depth begins with, and what follows a colon. -/
structure Layout where
  line : Nat → List Char
  gap : List Char

def Layout.compact : Layout := ⟨fun _ => [], []⟩

def Layout.indented : Layout := ⟨fun depth => '\n' :: List.replicate (2 * depth) ' ', [' ']⟩

/-- Written items between brackets, each on a line one step deeper. -/
def bracketed (layout : Layout) (depth : Nat) (first last : Char) (items : List (List Char)) :
    List Char :=
  if items.isEmpty then [first, last]
  else
    first :: (layout.line (depth + 1) ++ List.intercalate (',' :: layout.line (depth + 1)) items
      ++ layout.line depth ++ [last])

mutual

def write (layout : Layout) (depth : Nat) : Json → List Char
  | .null => ['n', 'u', 'l', 'l']
  | .bool true => ['t', 'r', 'u', 'e']
  | .bool false => ['f', 'a', 'l', 's', 'e']
  | .number n => n.text
  | .string s => quoted s
  | .array items => bracketed layout depth '[' ']' (writeItems layout (depth + 1) items)
  | .object members =>
    bracketed layout depth '\x7b' '\x7d' (writeMembers layout (depth + 1) members)

def writeItems (layout : Layout) (depth : Nat) : List Json → List (List Char)
  | [] => []
  | item :: items => write layout depth item :: writeItems layout depth items

def writeMembers (layout : Layout) (depth : Nat) : List (String × Json) → List (List Char)
  | [] => []
  | (key, value) :: members =>
    (quoted key ++ ':' :: (layout.gap ++ write layout depth value))
      :: writeMembers layout depth members

end

def compact (value : Json) : String := .ofList (write .compact 0 value)

def indented (value : Json) : String := .ofList (write .indented 0 value)

end Json

end Blueprint
