import Blueprint.Json.Value

/-!
Which JSON values count as the same in a schema.
-/

namespace Blueprint.Json

mutual

/-- Whether two values are the same: numbers by value, lists and objects part by part in the order
in which they are written. -/
def same : Json → Json → Bool
  | .null, .null => true
  | .bool a, .bool b => a == b
  | .number a, .number b => a.compare b == .eq
  | .string a, .string b => a == b
  | .array as, .array bs => sameItems as bs
  | .object as, .object bs => sameMembers as bs
  | _, _ => false

def sameItems : List Json → List Json → Bool
  | [], [] => true
  | a :: as, b :: bs => same a b && sameItems as bs
  | _, _ => false

def sameMembers : List (String × Json) → List (String × Json) → Bool
  | [], [] => true
  | (key, a) :: as, (other, b) :: bs => key == other && same a b && sameMembers as bs
  | _, _ => false

end

/-- Whether no two items are the same. -/
def distinct : List Json → Bool
  | [] => true
  | item :: items => !items.any (item.same ·) && distinct items

end Blueprint.Json
