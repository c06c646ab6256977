import Blueprint.Schematic.Basic
import Blueprint.Text.Utf8
import Blueprint.Text.Integer

/-!
The bytes of a processor's configuration: a version byte, the code with its length in front, the
number of links, and for each link its name, with its length in front, and its offset. Numbers are
big-endian and lengths count bytes.
-/

namespace Blueprint.ProcessorLayout

open Text (utf8)

/-- The numbers that the layout has room for within limits. -/
inductive Quantity where
  | codeLength | linkCount | nameLength | offsetX | offsetY
  deriving DecidableEq, Repr

def Quantity.name : Quantity → String
  | codeLength => "code length"
  | linkCount => "link count"
  | nameLength => "link name length"
  | offsetX => "link x offset"
  | offsetY => "link y offset"

structure OutOfRange where
  quantity : Quantity
  value : Int
  deriving DecidableEq, Repr

/-- The last `width` digits of a number to base 256, the highest first. -/
def bigEndian : Nat → Nat → List UInt8
  | 0, _ => []
  | width + 1, n => bigEndian width (n / 256) ++ [.ofNat n]

def ofBigEndian (bytes : List UInt8) : Nat := bytes.foldl (fun n byte => n * 256 + byte.toNat) 0

/-- A number that must be below a bound. -/
def unsigned (quantity : Quantity) (width bound value : Nat) : Except OutOfRange (List UInt8) :=
  if value < bound then .ok (bigEndian width value) else .error ⟨quantity, value⟩

/-- An offset of two bytes, as its remainder modulo `2^16`. -/
def signed (quantity : Quantity) (value : Int32) : Except OutOfRange (List UInt8) :=
  if Word.isSigned 16 value.toInt then
    .ok (bigEndian 2 (value.toInt % Word.count 16).toNat)
  else .error ⟨quantity, value.toInt⟩

def encodeLink (link : Link) : Except OutOfRange (List UInt8) := do
  let name := utf8 link.name
  let length ← unsigned .nameLength 2 (Word.count 16) name.length
  let x ← signed .offsetX link.offset.x
  let y ← signed .offsetY link.offset.y
  .ok (length ++ name ++ x ++ y)

def joinLines (code : List String) : String := "\n".intercalate code

def versionByte : UInt8 := 1

def encode (links : List Link) (code : List String) : Except OutOfRange (List UInt8) := do
  let text := utf8 (joinLines code)
  let length ← unsigned .codeLength 4 (Word.count 31) text.length
  let count ← unsigned .linkCount 4 (Word.count 31) links.length
  let encoded ← links.mapM encodeLink
  .ok (versionByte :: (length ++ text ++ count ++ encoded.flatten))

/-! ### Reading the layout back -/

def takeBytes (count : Nat) (bytes : List UInt8) : Option (List UInt8 × List UInt8) :=
  if count ≤ bytes.length then some (bytes.splitAt count) else none

def takeNumber (width : Nat) (bytes : List UInt8) : Option (Nat × List UInt8) := do
  let (digits, rest) ← takeBytes width bytes
  some (ofBigEndian digits, rest)

def takeText (count : Nat) (bytes : List UInt8) : Option (String × List UInt8) := do
  let (content, rest) ← takeBytes count bytes
  some (← Text.ofUtf8? content, rest)

/-- Numbers of two bytes from `2^15` on stand for negative offsets. -/
def takeOffset (bytes : List UInt8) : Option (Int32 × List UInt8) := do
  let (n, rest) ← takeNumber 2 bytes
  some (.ofInt (if n < Word.count 15 then n else (n : Int) - Word.count 16), rest)

def takeLink (bytes : List UInt8) : Option (Link × List UInt8) := do
  let (length, rest) ← takeNumber 2 bytes
  let (name, rest) ← takeText length rest
  let (x, rest) ← takeOffset rest
  let (y, rest) ← takeOffset rest
  some (⟨⟨x, y⟩, name⟩, rest)

def takeLinks : Nat → List UInt8 → Option (List Link × List UInt8)
  | 0, bytes => some ([], bytes)
  | count + 1, bytes => do
    let (link, rest) ← takeLink bytes
    let (links, rest) ← takeLinks count rest
    some (link :: links, rest)

/-- The code and the links of a layout that has nothing behind them. -/
def decode : List UInt8 → Option (String × List Link)
  | [] => none
  | version :: rest => do
    guard (version = versionByte)
    let (length, rest) ← takeNumber 4 rest
    let (code, rest) ← takeText length rest
    let (count, rest) ← takeNumber 4 rest
    let (links, rest) ← takeLinks count rest
    guard (rest = [])
    some (code, links)

end Blueprint.ProcessorLayout
