import Blueprint.Json.Value
import Blueprint.Json.Fault
import Blueprint.Text.Integer

/-!
Reading numbers. Whole numbers of a machine word are exact. Any other numeral is a significand of
at most a machine word times a power of ten, and its double is computed in two rounded steps.
-/

namespace Blueprint.Json

open Text (isDigit digitValue)

/-- Appends decimal digits to a number as long as it stays below `bound`; returns those that are
left over. -/
def absorb (bound : Nat) (number : Nat) : List Char → Nat × List Char
  | [] => (number, [])
  | digit :: digits =>
    let longer := number * 10 + digitValue digit
    if longer < bound then absorb bound longer digits else (number, digit :: digits)

def wordBound : Nat := Word.count 64

/-- Integers that fit a machine word stay exact. Minus zero and larger ones are doubles. -/
def ofWhole (negative : Bool) (magnitude : Nat) : Option Number :=
  if !negative then some (.integer magnitude)
  else if 0 < magnitude ∧ magnitude ≤ Word.count 63 then some (.integer (-magnitude))
  else (Decimal.Binary64.ofNat magnitude).map fun x => .double x.negate

def greatestPower : Nat := 308

/-- Divides by a power of ten, `10^308` at a time. -/
def divideByPower (x : Decimal.Binary64) (power : Nat) : Option Decimal.Binary64 :=
  if power ≤ greatestPower then do x.div (← Decimal.Binary64.ofNat (Nat.pow 10 power))
  else if x.isZero then some x
  else do
    let smaller ← x.div (← Decimal.Binary64.ofNat (Nat.pow 10 greatestPower))
    divideByPower smaller (power - greatestPower)
termination_by power
decreasing_by simp_all [greatestPower]; omega

/-- `significand · 10^exponent` in two rounded steps, first the significand and then the product
or quotient. Nothing is returned for what is too large. -/
def ofScientific (negative : Bool) (significand : Nat) (exponent : Int) : Option Number := do
  let x ← Decimal.Binary64.ofNat significand
  let magnitude ←
    if exponent < 0 then divideByPower x exponent.natAbs
    else if exponent.toNat ≤ greatestPower then
      x.mul (← Decimal.Binary64.ofNat (Nat.pow 10 exponent.toNat))
    else if x.isZero then some x
    else none
  some (.double { magnitude with negative := negative })

/-- The value of a number in range, or a fault behind it. -/
def inRange (number : Option Number) (rest : List Char) : Except Fault (Number × List Char) :=
  match number with
  | some value => .ok (value, rest)
  | none => .error (.before .numberOutOfRange rest)

def exponentBound : Nat := Word.count 31

/-- Whether an exponent is negative, and the text behind its optional sign. -/
def exponentSign : List Char → Bool × List Char
  | '+' :: rest => (false, rest)
  | '-' :: rest => (true, rest)
  | text => (false, text)

/-- The digits of an exponent. One of more than a machine word leaves zero as it is and makes
anything else zero or too large. -/
def exponentDigits (negative : Bool) (significand : Nat) (exponent : Int) (down : Bool)
    (text : List Char) : Except Fault (Number × List Char) :=
  match text.takeWhile isDigit with
  | [] => .error (if text.isEmpty then .before .endInValue [] else .on .invalidNumber text)
  | digits =>
    let rest := text.dropWhile isDigit
    match absorb exponentBound 0 digits with
    | (power, []) =>
      let change : Int := if down then -(power : Int) else power
      inRange (ofScientific negative significand (exponent + change)) rest
    | (_, _ :: beyond) =>
      if significand ≠ 0 ∧ !down then .error (.before .numberOutOfRange (beyond ++ rest))
      else inRange (some (.double (Decimal.Binary64.zero negative))) rest

/-- What follows the letter of an exponent. -/
def exponentPart (negative : Bool) (significand : Nat) (exponent : Int) (text : List Char) :
    Except Fault (Number × List Char) :=
  let (down, unsigned) := exponentSign text
  exponentDigits negative significand exponent down unsigned

/-- What follows the digits of a number, when `significand · 10^exponent` has been read. -/
def afterDigits (negative : Bool) (significand : Nat) (exponent : Int) (plain : Option Number)
    (text : List Char) : Except Fault (Number × List Char) :=
  match text with
  | 'e' :: rest => exponentPart negative significand exponent rest
  | 'E' :: rest => exponentPart negative significand exponent rest
  | _ => inRange plain text

/-- What follows a decimal point. Digits beyond a machine word are dropped. -/
def fractionPart (negative : Bool) (significand : Nat) (exponent : Int) (text : List Char) :
    Except Fault (Number × List Char) :=
  let digits := text.takeWhile isDigit
  let rest := text.dropWhile isDigit
  if digits.isEmpty then
    .error (.on (if rest.isEmpty then .endInValue else .invalidNumber) rest)
  else
    let (longer, dropped) := absorb wordBound significand digits
    let lower := exponent - (digits.length - dropped.length : Nat)
    afterDigits negative longer lower (ofScientific negative longer lower) rest

/-- What follows the whole digits of a number, the first of which have been read as `significand`
and the others are left over. -/
def afterWhole (negative : Bool) (significand : Nat) (left text : List Char) :
    Except Fault (Number × List Char) :=
  match text with
  | '.' :: fraction => fractionPart negative significand left.length fraction
  | _ =>
    let plain :=
      if left.isEmpty then ofWhole negative significand
      else ofScientific negative significand left.length
    afterDigits negative significand left.length plain text

/-- A number behind its sign. It has no superfluous zero in front. -/
def unsignedNumber (negative : Bool) (text : List Char) : Except Fault (Number × List Char) :=
  let rest := text.dropWhile isDigit
  match text.takeWhile isDigit with
  | [] => .error (if text.isEmpty then .before .endInValue [] else .on .invalidNumber text)
  | '0' :: second :: more => .error (.on .invalidNumber (second :: more ++ rest))
  | digits =>
    let (significand, left) := absorb wordBound 0 digits
    afterWhole negative significand left rest

theorem rest_of_inRange {number : Option Number} {left rest : List Char} {value : Number}
    (success : inRange number left = .ok (value, rest)) : rest = left := by
  unfold inRange at success
  split at success
  · simp only [Except.ok.injEq, Prod.mk.injEq] at success; exact success.2.symm
  · cases success

theorem exponentPart_length_le {negative : Bool} {significand : Nat} {exponent : Int}
    {text rest : List Char} {value : Number}
    (success : exponentPart negative significand exponent text = .ok (value, rest)) :
    rest.length ≤ text.length := by
  have unsigned : (exponentSign text).2.length ≤ text.length := by
    unfold exponentSign; split <;> simp
  have digits := Text.length_dropWhile_le isDigit (exponentSign text).2
  simp only [exponentPart, exponentDigits] at success
  split at success
  · cases success
  · split at success
    · rw [rest_of_inRange success]; omega
    · split at success
      · cases success
      · rw [rest_of_inRange success]; omega

theorem afterDigits_length_le {negative : Bool} {significand : Nat} {exponent : Int}
    {plain : Option Number} {text rest : List Char} {value : Number}
    (success : afterDigits negative significand exponent plain text = .ok (value, rest)) :
    rest.length ≤ text.length := by
  unfold afterDigits at success
  split at success
  · have := exponentPart_length_le success; simp only [List.length_cons]; omega
  · have := exponentPart_length_le success; simp only [List.length_cons]; omega
  · exact Nat.le_of_eq (congrArg List.length (rest_of_inRange success))

theorem afterWhole_length_le {negative : Bool} {significand : Nat} {left text rest : List Char}
    {value : Number} (success : afterWhole negative significand left text = .ok (value, rest)) :
    rest.length ≤ text.length := by
  unfold afterWhole at success
  split at success
  · next fraction =>
    have digits := Text.length_dropWhile_le isDigit fraction
    simp only [fractionPart] at success
    split at success
    · cases success
    · have := afterDigits_length_le success; simp only [List.length_cons]; omega
  · exact afterDigits_length_le success

theorem unsignedNumber_length_lt {negative : Bool} {text rest : List Char} {value : Number}
    (success : unsignedNumber negative text = .ok (value, rest)) : rest.length < text.length := by
  have parts := congrArg List.length (List.takeWhile_append_dropWhile (p := isDigit) (l := text))
  rw [List.length_append] at parts
  simp only [unsignedNumber] at success
  split at success
  · cases success
  · cases success
  · next nonempty _ =>
    have := afterWhole_length_le success
    have := List.length_pos_iff.mpr nonempty
    omega

end Blueprint.Json
