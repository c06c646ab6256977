/-!
Whole numbers in decimal digits, the values of hexadecimal ones, and numbers that fit into words of
some width.
-/

namespace Blueprint.Text

def isDigit (c : Char) : Bool := '0' ≤ c && c ≤ '9'

def digitValue (c : Char) : Nat := c.toNat - '0'.toNat

/-- The number that digits stand for. -/
def ofDigits (digits : List Char) : Nat :=
  digits.foldl (fun n digit => n * 10 + digitValue digit) 0

def natural? (text : List Char) : Option Nat :=
  if text ≠ [] ∧ text.all isDigit then some (ofDigits text) else none

/-- Digits with an optional sign before them. -/
def integer? : List Char → Option Int
  | '+' :: digits => (natural? digits).map fun n => (n : Int)
  | '-' :: digits => (natural? digits).map fun n => -(n : Int)
  | digits => (natural? digits).map fun n => (n : Int)

def hexDigit? (c : Char) : Option Nat :=
  if '0' ≤ c ∧ c ≤ '9' then some (c.toNat - '0'.toNat)
  else if 'a' ≤ c ∧ c ≤ 'f' then some (c.toNat - 'a'.toNat + 10)
  else if 'A' ≤ c ∧ c ≤ 'F' then some (c.toNat - 'A'.toNat + 10)
  else none

/-- The number that hexadecimal digits stand for. -/
def hexNumber? (digits : List Char) : Option Nat :=
  digits.foldlM (fun n digit => (hexDigit? digit).map (n * 16 + ·)) 0

end Blueprint.Text

namespace Blueprint.Word

/-- How many words of a width in bits there are. -/
def count (bits : Nat) : Nat := Nat.pow 2 bits

/-- Half of the signed words are negative. -/
def isSigned (bits : Nat) (n : Int) : Bool :=
  let half := count (bits - 1)
  n < half && -(half : Int) ≤ n

end Blueprint.Word
