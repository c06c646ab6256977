import Blueprint.Decimal.Shortest
import Blueprint.Text.Integer
import Blueprint.Toml.Table

/-!
Numbers, truth values and dates of TOML, each a run of characters without quotes.
-/

namespace Blueprint.Toml

/-- Digits, between which single underscores may stand. -/
def grouped (digit : Char → Bool) : List Char → Bool
  | [] => false
  | [c] => digit c
  | c :: '_' :: rest => digit c && grouped digit rest
  | c :: rest => digit c && grouped digit rest

def ungroup (digits : List Char) : List Char := digits.filter (· ≠ '_')

/-- The sign, if one is written, and what follows it. -/
def splitSign : List Char → Bool × List Char
  | '+' :: rest => (false, rest)
  | '-' :: rest => (true, rest)
  | text => (false, text)

/-- A digit string without a superfluous zero in front. -/
def isWhole (digits : List Char) : Bool :=
  grouped Text.isDigit digits && (digits.length = 1 || digits.head? ≠ some '0')

def signedWord? (n : Int) : Option Value :=
  if Word.isSigned 64 n then some (.integer n) else none

def isRadixDigit (radix : Nat) (c : Char) : Bool :=
  match Text.hexDigit? c with
  | some value => value < radix
  | none => false

def ofRadix (radix : Nat) (digits : List Char) : Nat :=
  digits.foldl (fun n digit => n * radix + (Text.hexDigit? digit).getD 0) 0

def radixInteger? (radix : Nat) (digits : List Char) : Option Value :=
  if grouped (isRadixDigit radix) digits then signedWord? (ofRadix radix (ungroup digits)) else none

def integer? : List Char → Option Value
  | '0' :: 'x' :: digits => radixInteger? 16 digits
  | '0' :: 'o' :: digits => radixInteger? 8 digits
  | '0' :: 'b' :: digits => radixInteger? 2 digits
  | text =>
    let (negative, digits) := splitSign text
    if isWhole digits then
      let n : Int := Text.ofDigits (ungroup digits)
      signedWord? (if negative then -n else n)
    else none

/-- Whether `digits · 10^exponent` is below the bound of doubles. -/
def isFinite (digits : List Char) (exponent : Int) : Bool :=
  let n := Text.ofDigits digits
  let size := exponent + digits.length
  if n = 0 ∨ size < 300 then true
  else if size > 400 + digits.length then false
  else
    let (num, den) := Decimal.scaled n exponent
    (Decimal.Binary64.ofQuotient false num den).isSome

/-- The exponent behind its letter. -/
def exponent? (text : List Char) : Option Int :=
  let (negative, digits) := splitSign text
  if grouped Text.isDigit digits then
    let n : Int := Text.ofDigits (ungroup digits)
    some (if negative then -n else n)
  else none

def isExponentMark (c : Char) : Bool := c = 'e' || c = 'E'

def isGroupChar (c : Char) : Bool := Text.isDigit c || c = '_'

/-- Only a positive number can be too large. -/
def decimal? (negative : Bool) (whole fraction : List Char) (exponent : Int) : Option Value :=
  let digits := ungroup (whole ++ fraction)
  if negative ∨ isFinite digits (exponent - (ungroup fraction).length) then some .float else none

def float? (text : List Char) : Option Value :=
  let (negative, magnitude) := splitSign text
  let whole := magnitude.takeWhile isGroupChar
  if magnitude = ['i', 'n', 'f'] ∨ magnitude = ['n', 'a', 'n'] then some .float
  else if !isWhole whole then none
  else match magnitude.dropWhile isGroupChar with
    | '.' :: rest =>
      let fraction := rest.takeWhile isGroupChar
      if !grouped Text.isDigit fraction then none
      else match rest.dropWhile isGroupChar with
        | [] => decimal? negative whole fraction 0
        | mark :: rest =>
          if isExponentMark mark then do decimal? negative whole fraction (← exponent? rest)
          else none
    | mark :: rest =>
      if isExponentMark mark then do decimal? negative whole [] (← exponent? rest) else none
    | [] => none

/-! ### Dates and times -/

/-- A number of so many digits within bounds, and what follows it. -/
def field? (width low high : Nat) (text : List Char) : Option (Nat × List Char) :=
  match Text.natural? (text.take width) with
  | some n =>
    if width ≤ text.length ∧ low ≤ n ∧ n ≤ high then some (n, text.drop width) else none
  | none => none

def after? (mark : Char) : List Char → Option (List Char)
  | c :: rest => if c = mark then some rest else none
  | [] => none

def isLeap (year : Nat) : Bool := year % 4 = 0 && (year % 100 ≠ 0 || year % 400 = 0)

def daysIn (year month : Nat) : Nat :=
  if month = 2 then if isLeap year then 29 else 28
  else if month = 4 ∨ month = 6 ∨ month = 9 ∨ month = 11 then 30
  else 31

/-- What follows a date. -/
def date? (text : List Char) : Option (List Char) := do
  let (year, rest) ← field? 4 0 9999 text
  let (month, rest) ← field? 2 1 12 (← after? '-' rest)
  let (_, rest) ← field? 2 1 (daysIn year month) (← after? '-' rest)
  some rest

/-- What follows a time, which may have a fraction of a second. -/
def time? (text : List Char) : Option (List Char) := do
  let (_, rest) ← field? 2 0 23 text
  let (_, rest) ← field? 2 0 59 (← after? ':' rest)
  let (_, rest) ← field? 2 0 60 (← after? ':' rest)
  match rest with
  | '.' :: fraction =>
    if (fraction.takeWhile Text.isDigit).isEmpty then none
    else some (fraction.dropWhile Text.isDigit)
  | _ => some rest

def isOffset (text : List Char) : Bool :=
  match text with
  | ['Z'] => true
  | ['z'] => true
  | c :: rest =>
    (c = '+' || c = '-') && (do
      let (_, rest) ← field? 2 0 23 rest
      let (_, rest) ← field? 2 0 59 (← after? ':' rest)
      guard (rest = [])).isSome
  | [] => false

def isDateTimeMark (c : Char) : Bool := c = 'T' || c = 't' || c = ' '

def isDateTime (text : List Char) : Bool :=
  match date? text with
  | none => time? text = some []
  | some [] => true
  | some (mark :: clock) =>
    isDateTimeMark mark && match time? clock with
      | none => false
      | some rest => rest.isEmpty || isOffset rest

def isScalarChar (c : Char) : Bool :=
  Text.isDigit c || ('a' ≤ c && c ≤ 'z') || ('A' ≤ c && c ≤ 'Z')
    || c = '+' || c = '-' || c = '_' || c = '.' || c = ':'

/-- The run of characters that a scalar is written with. A blank may stand between a date and a
time. -/
def scalarRun (text : List Char) : List Char × List Char :=
  let run := text.takeWhile isScalarChar
  match text.dropWhile isScalarChar with
  | ' ' :: rest =>
    if date? run = some [] ∧ (rest.head?.any Text.isDigit) then
      (run ++ ' ' :: rest.takeWhile isScalarChar, rest.dropWhile isScalarChar)
    else (run, ' ' :: rest)
  | rest => (run, rest)

def scalar? (run : List Char) : Option Value :=
  if run = "true".toList ∨ run = "false".toList then some .boolean
  else if isDateTime run then some .datetime
  else (float? run).or (integer? run)

end Blueprint.Toml
