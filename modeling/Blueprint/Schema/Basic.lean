import Blueprint.Json.Value

/-!
Schemas for JSON documents: what a value has to satisfy, part by part.
-/

namespace Blueprint

/-- The kinds of values that a schema can name, in the order in which messages list them. -/
inductive Kind where
  | array | boolean | integer | null | number | object | string
  deriving DecidableEq, Repr

def Kind.all : List Kind := [.array, .boolean, .integer, .null, .number, .object, .string]

def Kind.name : Kind → String
  | .array => "array"
  | .boolean => "boolean"
  | .integer => "integer"
  | .null => "null"
  | .number => "number"
  | .object => "object"
  | .string => "string"

def Kind.ofName? (name : String) : Option Kind := Kind.all.find? (·.name = name)

/-- A double without a fraction is an integer too, unless integers have to be written as such. -/
def Kind.admits (exact : Bool) : Kind → Json → Bool
  | .array, .array _ => true
  | .boolean, .bool _ => true
  | .integer, .number (.integer _) => true
  | .integer, .number (.double x) => !exact && x.isIntegral
  | .null, .null => true
  | .number, .number _ => true
  | .object, .object _ => true
  | .string, .string _ => true
  | _, _ => false

/-- A requirement on a value. Those that concern one kind of value hold for every other kind. -/
inductive Rule where
  | anything
  | nothing
  | every (rules : List Rule)
  /-- With `exact`, only what is written as an integer is one. -/
  | kinds (exact : Bool) (allowed : List Kind)
  | required (keys : List String)
  /-- The named members, if they are there. -/
  | properties (known : List (String × Rule))
  /-- As `properties`, and there are no other members. -/
  | closed (known : List (String × Rule))
  /-- As `properties`, and all other members satisfy a rule of their own. -/
  | members (known : List (String × Rule)) (other : Rule)
  | memberless
  | items (each : Rule)
  /-- One rule for each item, as far as both lists go. -/
  | tuple (places : List Rule)
  | listed (values : List Json)
  | oneOf (options : List Rule)
  | atLeast (bound : Number)
  | atMost (bound : Number)
  /-- The rule with a name, which is the text of a reference. -/
  | definition (name : String)

/-- A rule and the named rules it may refer to. -/
structure Schema where
  root : Rule
  definitions : List (String × Rule)

inductive Step where
  | key (name : String)
  | index (position : Nat)
  deriving DecidableEq, Repr

inductive Complaint where
  | refused (value : Json)
  | wrongKind (value : Json) (allowed : List Kind)
  | missing (key : String)
  | unexpected (keys : List String)
  | notListed (value : Json) (values : List Json)
  | noOption (value : Json)
  | severalOptions (value : Json)
  | below (value : Json) (bound : Number)
  | above (value : Json) (bound : Number)

/-- What is wrong, and the way from the root to the value that is. -/
structure Violation where
  path : List Step
  complaint : Complaint

def Violation.under (step : Step) (violation : Violation) : Violation :=
  { violation with path := step :: violation.path }

end Blueprint
