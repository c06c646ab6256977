import Blueprint.Json.Extent
import Blueprint.Json.Same
import Blueprint.Schema.Basic

/-!
Checking a value against a schema. Only the first violation counts: rules are tried in the order
in which they are written.
-/

namespace Blueprint

abbrev Check := Json → Option Violation

def complain (complaint : Complaint) : Option Violation := some ⟨[], complaint⟩

/-- Checks a member against the check for its key. -/
def Check.member (check : Check) (key : String) (value : Json) : Option Violation :=
  (check value).map (.under (.key key))

/-- Checks items in order, the first of them at `position`. -/
def Check.items (check : Check) (position : Nat) : List Json → Option Violation
  | [] => none
  | item :: items =>
    ((check item).map (.under (.index position))).or (check.items (position + 1) items)

/-- Checks items in order against the check for their place, the first of them at `position`. Items
without a check of their own satisfy any. -/
def Check.tuple (position : Nat) : List Check → List Json → Option Violation
  | check :: checks, item :: items =>
    ((check item).map (.under (.index position))).or (Check.tuple (position + 1) checks items)
  | _, _ => none

def Check.kinds (exact : Bool) (allowed : List Kind) : Check := fun value =>
  if allowed.any (·.admits exact value) then none else complain (.wrongKind value allowed)

def Check.required (keys : List String) : Check
  | .object members =>
    (keys.find? fun key => (members.lookup key).isNone).bind (complain <| .missing ·)
  | _ => none

/-- The known members in the order in which the schema lists them. -/
def Check.properties (known : List (String × Check)) : Check := fun value =>
  known.findSome? fun (key, check) => (value.member? key).bind (check.member key)

/-- The members in the order in which the value lists them; unknown ones are reported last. -/
def Check.closed (known : List (String × Check)) : Check
  | .object members =>
    let bad := members.findSome? fun (key, value) => (known.lookup key).bind (·.member key value)
    let unknown := (members.map Prod.fst).filter fun key => (known.lookup key).isNone
    bad.or (if unknown.isEmpty then none else complain (.unexpected unknown))
  | _ => none

def Check.members (known : List (String × Check)) (other : Check) : Check
  | .object members =>
    members.findSome? fun (key, value) => ((known.lookup key).getD other).member key value
  | _ => none

def Check.memberless : Check
  | .object ((_, value) :: _) => complain (.refused value)
  | _ => none

def Check.listed (values : List Json) : Check := fun value =>
  if values.any (value.same ·) then none else complain (.notListed value values)

def Check.oneOf (options : List Check) : Check := fun value =>
  match options.filter fun check => (check value).isNone with
  | [] => complain (.noOption value)
  | [_] => none
  | _ => complain (.severalOptions value)

def Check.atLeast (bound : Number) : Check
  | .number n => if n.compare bound == .lt then complain (.below (.number n) bound) else none
  | _ => none

def Check.atMost (bound : Number) : Check
  | .number n => if n.compare bound == .gt then complain (.above (.number n) bound) else none
  | _ => none

mutual

/-- The check that a rule stands for, when checks are given for the names it refers to. -/
def Rule.check (named : String → Check) : Rule → Check
  | .anything => fun _ => none
  | .nothing => fun value => complain (.refused value)
  | .every rules =>
    let checks := Rule.checkEach named rules
    fun value => checks.findSome? (· value)
  | .kinds exact allowed => Check.kinds exact allowed
  | .required keys => Check.required keys
  | .properties known => Check.properties (Rule.checkNamed named known)
  | .closed known => Check.closed (Rule.checkNamed named known)
  | .members known other => Check.members (Rule.checkNamed named known) (Rule.check named other)
  | .memberless => Check.memberless
  | .items each =>
    let check := Rule.check named each
    fun value => match value with
      | .array elements => check.items 0 elements
      | _ => none
  | .tuple places =>
    let checks := Rule.checkEach named places
    fun value => match value with
      | .array elements => Check.tuple 0 checks elements
      | _ => none
  | .listed values => Check.listed values
  | .oneOf options => Check.oneOf (Rule.checkEach named options)
  | .atLeast bound => Check.atLeast bound
  | .atMost bound => Check.atMost bound
  | .definition name => named name

def Rule.checkEach (named : String → Check) : List Rule → List Check
  | [] => []
  | rule :: rules => Rule.check named rule :: Rule.checkEach named rules

def Rule.checkNamed (named : String → Check) : List (String × Rule) → List (String × Check)
  | [] => []
  | (key, rule) :: rules => (key, Rule.check named rule) :: Rule.checkNamed named rules

end

namespace Schema

/-- The check for a name, with names inside it followed so many times. -/
def follow (schema : Schema) : Nat → String → Check
  | 0, _ => fun _ => none
  | more + 1, name =>
    match schema.definitions.lookup name with
    | some rule => rule.check (schema.follow more)
    | none => fun _ => none

/-- The first violation. On one value at most every name is followed once, unless names go round in
a circle, and then they ask for nothing. -/
def violation? (schema : Schema) (value : Json) : Option Violation :=
  schema.root.check (schema.follow ((value.depth + 1) * schema.definitions.length)) value

end Schema

end Blueprint
