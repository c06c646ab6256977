import Blueprint.Json.Value

/-!
How deep and how large JSON values are.
-/

namespace Blueprint.Json

mutual

/-- How many lists and objects are around each other. -/
def depth : Json → Nat
  | .array items => depthOfItems items + 1
  | .object members => depthOfMembers members + 1
  | _ => 0

def depthOfItems : List Json → Nat
  | [] => 0
  | item :: items => max (depth item) (depthOfItems items)

def depthOfMembers : List (String × Json) → Nat
  | [] => 0
  | (_, value) :: members => max (depth value) (depthOfMembers members)

end

mutual

/-- How many values there are, the whole and all parts inside it. -/
def size : Json → Nat
  | .array items => sizeOfItems items + 1
  | .object members => sizeOfMembers members + 1
  | _ => 1

def sizeOfItems : List Json → Nat
  | [] => 0
  | item :: items => size item + sizeOfItems items

def sizeOfMembers : List (String × Json) → Nat
  | [] => 0
  | (_, value) :: members => size value + sizeOfMembers members

end

end Blueprint.Json
