/-!
Finite double-precision numbers in exact arithmetic. Every operation computes the exact quotient
of two natural numbers and rounds it once, to the nearest double and on a tie to the even one.
-/

namespace Blueprint.Decimal

/-- The number `mantissa · 2^exponent` with its sign. The mantissa is below `2^53`, and at least
`2^52` unless the exponent is `-1074`. -/
structure Binary64 where
  negative : Bool
  mantissa : Nat
  exponent : Int
  deriving DecidableEq, Repr

namespace Binary64

def leastExponent : Int := -1074

def greatestExponent : Int := 971

/-- The least mantissa that fills its 53 bits. -/
def leadingBit : Nat := Nat.pow 2 52

def zero (negative : Bool) : Binary64 := ⟨negative, 0, leastExponent⟩

def isZero (x : Binary64) : Bool := x.mantissa == 0

def negate (x : Binary64) : Binary64 := { x with negative := !x.negative }

/-- The factors by which numerator and denominator grow when a quotient is scaled by `2^power`. -/
def scales (power : Int) : Nat × Nat := (Nat.pow 2 power.toNat, Nat.pow 2 (-power).toNat)

/-- The quotient to the nearest natural number, ties to even. -/
def roundedQuotient (num den : Nat) : Nat :=
  let whole := num / den
  let twice := 2 * (num % den)
  if twice < den then whole
  else if twice = den then whole + whole % 2
  else whole + 1

/-- The exponent at which the quotient has a mantissa of 53 bits, or the least one. -/
def exponentFor (num den : Nat) : Int :=
  let guess : Int := (num.log2 : Int) - den.log2 - 52
  let (up, down) := scales (-guess)
  let exact := if num * up / (den * down) < leadingBit then guess - 1 else guess
  max exact leastExponent

/-- The double nearest to a quotient, or `none` if it is beyond the greatest double. -/
def ofQuotient (negative : Bool) (num den : Nat) : Option Binary64 :=
  if num = 0 then some (zero negative)
  else
    let exponent := exponentFor num den
    let (up, down) := scales (-exponent)
    let mantissa := roundedQuotient (num * up) (den * down)
    let carried : Binary64 :=
      if mantissa = 2 * leadingBit then ⟨negative, leadingBit, exponent + 1⟩
      else ⟨negative, mantissa, exponent⟩
    if carried.exponent > greatestExponent then none else some carried

/-- The magnitude as a quotient of natural numbers. -/
def quotient (x : Binary64) : Nat × Nat :=
  let (up, down) := scales x.exponent
  (x.mantissa * up, down)

def ofNat (n : Nat) : Option Binary64 := ofQuotient false n 1

def mul (x y : Binary64) : Option Binary64 :=
  let (a, b) := x.quotient
  let (c, d) := y.quotient
  ofQuotient (x.negative != y.negative) (a * c) (b * d)

def div (x y : Binary64) : Option Binary64 :=
  let (a, b) := x.quotient
  let (c, d) := y.quotient
  ofQuotient (x.negative != y.negative) (a * d) (b * c)

/-- The value as a signed numerator over a positive denominator. -/
def ratio (x : Binary64) : Int × Nat :=
  let (num, den) := x.quotient
  (if x.negative then -(num : Int) else num, den)

def isIntegral (x : Binary64) : Bool :=
  let (num, den) := x.quotient
  num % den == 0

end Binary64

end Blueprint.Decimal
