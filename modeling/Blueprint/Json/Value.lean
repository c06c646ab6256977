import Blueprint.Decimal.Binary64

/-!
JSON values. Members of an object keep their written order.
-/

namespace Blueprint

inductive Number where
  | integer (value : Int)
  | double (value : Decimal.Binary64)
  deriving DecidableEq, Repr

inductive Json where
  | null
  | bool (value : Bool)
  | number (value : Number)
  | string (value : String)
  | array (items : List Json)
  | object (members : List (String × Json))

namespace Number

/-- The value as a numerator over a positive denominator. -/
def ratio : Number → Int × Nat
  | .integer n => (n, 1)
  | .double x => x.ratio

/-- Numbers are ordered by value, whatever way they are written. -/
def compare (x y : Number) : Ordering :=
  let (a, b) := x.ratio
  let (c, d) := y.ratio
  Ord.compare (a * d) (c * b)

end Number

namespace Json

instance : Inhabited Json := ⟨.null⟩

def ofNat (n : Nat) : Json := .number (.integer n)

def ofStrings (items : List String) : Json := .array (items.map .string)

def member? (key : String) : Json → Option Json
  | .object members => members.lookup key
  | _ => none

end Json

end Blueprint
