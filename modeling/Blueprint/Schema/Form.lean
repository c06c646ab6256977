import Blueprint.Json.Same
import Blueprint.Schema.Reference
import Blueprint.Schema.Version

/-!
The form that a JSON value must have to be a schema. Its keywords are examined in the order of the
version, whatever order they are written in.
-/

namespace Blueprint.Schema

def wrongKind? (kind : Kind) (value : Json) : Option Defect :=
  if kind.admits false value then none else some (.wrongKind value [kind])

/-- Whether the value names a kind, or lists different ones. -/
def namesKinds : Json → Bool
  | .string name => (Kind.ofName? name).isSome
  | .array names =>
    !names.isEmpty && Json.distinct names && names.all fun
      | .string name => (Kind.ofName? name).isSome
      | _ => false
  | _ => false

/-- What is wrong with the value of a keyword. Whether it is a schema, and whether its parts are,
is asked only where that matters. -/
def Shape.defect? (whole parts : Unit → Option Defect) (value : Json) : Shape → Option Defect
  | .text => wrongKind? .string value
  | .reference => match value with
    | .string target =>
      if target.toList.head? = some '#' ∧ (strayText? 1 (target.toList.drop 1)).isSome then
        some (.noReference target)
      else none
    | value => wrongKind? .string value
  | .number => wrongKind? .number value
  | .kinds => if namesKinds value then none else some (.noOption value)
  | .keys nonempty => match value with
    | .array items =>
      (items.findSome? (wrongKind? .string)).or
        (if nonempty && items.isEmpty then some .empty
        else if Json.distinct items then none else some (.repeated value))
    | value => wrongKind? .array value
  | .values => wrongKind? .array value
  | .distinctValues => match value with
    | .array [] => some .empty
    | .array items => if Json.distinct items then none else some (.repeated value)
    | value => wrongKind? .array value
  | .schema => whole ()
  | .schemaOrFlag => match value with
    | .bool _ => none
    | value => (whole ()).map fun _ => .noOption value
  | .schemas => match value with
    | .array [] => some .empty
    | .array _ => parts ()
    | value => wrongKind? .array value
  | .schemaOrSchemas => match value with
    | .array [] => some (.noOption value)
    | .array _ => (parts ()).map fun _ => .noOption value
    | value => (whole ()).map fun _ => .noOption value
  | .table => (wrongKind? .object value).or (parts ())

namespace Version

/-- The kinds of values that can be schemas. -/
def schemaKinds (version : Version) : List Kind :=
  if version.flags then [.boolean, .object] else [.object]

/-- The version that a schema names. -/
def ofSchema (schema : Json) : Except Defect Version :=
  match schema.member? "$schema" with
  | some (.string address) =>
    match all.find? (·.address = trimAddress address) with
    | some version => .ok version
    | none => .error (.unknownVersion (trimAddress address))
  | _ => .ok latest

mutual

/-- The first reason why a value is no schema. -/
def defect? (version : Version) : Json → Option Defect
  | .bool value => if version.flags then none else some (.wrongKind (.bool value) [.object])
  | .object members =>
    let found := memberDefects version members
    version.keywords.findSome? fun (keyword, _) => (found.lookup keyword).join
  | value => some (.wrongKind value version.schemaKinds)

/-- For every member, what is wrong with it as a keyword. -/
def memberDefects (version : Version) : List (String × Json) → List (String × Option Defect)
  | [] => []
  | (keyword, value) :: rest =>
    let defect := (version.keywords.lookup keyword).bind
      (·.defect? (fun _ => defect? version value) (fun _ => partDefect? version value) value)
    (keyword, defect) :: memberDefects version rest

/-- The first reason why a part of a list or an object is no schema. -/
def partDefect? (version : Version) : Json → Option Defect
  | .array items => itemDefect? version items
  | .object members => entryDefect? version members
  | _ => none

def itemDefect? (version : Version) : List Json → Option Defect
  | [] => none
  | item :: items => (defect? version item).or (itemDefect? version items)

def entryDefect? (version : Version) : List (String × Json) → Option Defect
  | [] => none
  | (_, value) :: rest => (defect? version value).or (entryDefect? version rest)

end

/-- Passes on what has the form of a schema. -/
def checkForm (version : Version) (value : Json) : Except Defect Json :=
  match version.defect? value with
  | some defect => .error defect
  | none => .ok value

end Version

end Blueprint.Schema
