import Blueprint.Decimal.Binary64

/-!
The shortest decimal that reads back as a given double: of the decimals that round to it, one with
the fewest digits, and of those the nearest.
-/

namespace Blueprint.Decimal

/-- The number `digits · 10^exponent`. -/
structure Scientific where
  digits : Nat
  exponent : Int
  deriving DecidableEq, Repr

/-- A value and the bounds of the numbers that round to it, over one denominator. -/
structure Interval where
  low : Nat
  value : Nat
  high : Nat
  denominator : Nat
  inclusive : Bool

/-- The numbers that round to `x`, up to its sign. Below a power of two doubles lie half as far
apart. -/
def Interval.around (x : Binary64) : Interval :=
  let narrow := x.mantissa = Binary64.leadingBit ∧ x.exponent > Binary64.leastExponent
  let (up, down) := Binary64.scales (x.exponent - 2)
  { low := (4 * x.mantissa - if narrow then 1 else 2) * up
    value := 4 * x.mantissa * up
    high := (4 * x.mantissa + 2) * up
    denominator := down
    inclusive := x.mantissa % 2 = 0 }

def digitCount (n : Nat) : Nat := (Nat.toDigits 10 n).length

/-- The power of ten that is at most `num / den`, and ten times which is above it. -/
def leadingPower (num den : Nat) : Int :=
  if den ≤ num then (digitCount (num / den) : Int) - 1
  else -(digitCount ((den + num - 1) / num - 1) : Int)

/-- `n · 10^power` as a quotient. -/
def scaled (n : Nat) (power : Int) : Nat × Nat :=
  (n * Nat.pow 10 power.toNat, Nat.pow 10 (-power).toNat)

/-- Whether `n · 10^power` rounds to the value of the interval. -/
def Interval.contains (i : Interval) (n : Nat) (power : Int) : Bool :=
  let (num, den) := scaled n power
  let point := num * i.denominator
  let low := i.low * den
  let high := i.high * den
  if i.inclusive then low ≤ point && point ≤ high else low < point && point < high

/-- The better of the two neighbours of the value among the multiples of `10^power`. -/
def Interval.nearest? (i : Interval) (power : Int) : Option Nat :=
  let (up, down) := scaled 1 power
  let below := i.value * down / (i.denominator * up)
  let gap := i.value * down % (i.denominator * up)
  let order := compare (2 * gap) (i.denominator * up)
  let lowerFirst := order = .lt ∨ (order = .eq ∧ below % 2 = 0)
  let (first, second) := if lowerFirst then (below, below + 1) else (below + 1, below)
  if first ≠ 0 ∧ i.contains first power then some first
  else if second ≠ 0 ∧ i.contains second power then some second
  else none

/-- Drops final zeros, of which there are at most `count`. -/
def Scientific.stripZeros : Nat → Scientific → Scientific
  | 0, s => s
  | count + 1, s =>
    if s.digits % 10 = 0 then stripZeros count ⟨s.digits / 10, s.exponent + 1⟩ else s

/-- Tries grids of one digit, two digits and so on; seventeen digits always suffice. -/
def Interval.search (i : Interval) (power : Int) : Nat → Option Scientific
  | 0 => none
  | more + 1 =>
    let unit := power - (16 - more : Int)
    match i.nearest? unit with
    | some digits => some (Scientific.stripZeros 17 ⟨digits, unit⟩)
    | none => i.search power more

def shortest (x : Binary64) : Scientific :=
  if x.isZero then ⟨0, 0⟩
  else
    let i := Interval.around x
    (i.search (leadingPower i.value i.denominator) 17).getD ⟨0, 0⟩

end Blueprint.Decimal
