import Blueprint.Json.Extent
import Blueprint.Schema.Form

/-!
Reading a schema from its own JSON form. Unknown keywords ask for nothing. Places that no reference
leads to are not read, so it does not matter where their own references lead.
-/

namespace Blueprint

mutual

/-- The names in a rule, in the order in which they are met. -/
def Rule.names : Rule → List String
  | .every rules => Rule.namesOfEach rules
  | .properties known => Rule.namesOfMembers known
  | .closed known => Rule.namesOfMembers known
  | .members known other => Rule.namesOfMembers known ++ Rule.names other
  | .items each => Rule.names each
  | .tuple places => Rule.namesOfEach places
  | .oneOf options => Rule.namesOfEach options
  | .definition name => [name]
  | _ => []

def Rule.namesOfEach : List Rule → List String
  | [] => []
  | rule :: rules => Rule.names rule ++ Rule.namesOfEach rules

def Rule.namesOfMembers : List (String × Rule) → List String
  | [] => []
  | (_, rule) :: rules => Rule.names rule ++ Rule.namesOfMembers rules

end

namespace Schema

/-- A keyword with its value read. `properties` and `additionalProperties` are read together once
all keywords are known. -/
inductive Keyword where
  | rule (rule : Rule)
  | properties (known : List (String × Rule))
  | others (rule : Rule)
  | reference (rule : Rule)
  | ignored

def textOf? : Json → Option String
  | .string text => some text
  | _ => none

def strings : Json → List String
  | .array items => items.filterMap textOf?
  | _ => []

def kinds : Json → List Kind
  | .array items => (items.filterMap textOf?).filterMap Kind.ofName?
  | value => ((textOf? value).bind Kind.ofName?).toList

/-- Joins `properties` and `additionalProperties` at the place of the latter. -/
def combine (keywords : List Keyword) : List Rule :=
  let known? := keywords.findSome? fun
    | .properties known => some known
    | _ => none
  let restricted := keywords.any fun
    | .others .anything => false
    | .others _ => true
    | _ => false
  keywords.filterMap fun
    | .rule rule => some rule
    | .reference rule => some rule
    | .properties known => if restricted then none else some (.properties known)
    | .others .anything => none
    | .others .nothing => some ((known?.map Rule.closed).getD .memberless)
    | .others other => some (.members (known?.getD []) other)
    | .ignored => none

/-- The rule of a schema object. -/
def assemble (version : Version) (keywords : List Keyword) : Rule :=
  let alone? := if version.loneReferences then
      keywords.findSome? fun
        | .reference rule => some rule
        | _ => none
    else none
  alone?.getD (.every (combine keywords))

mutual

/-- The rule of a value that has the form of a schema. -/
def rule (version : Version) : Json → Rule
  | .bool false => .nothing
  | .object members => assemble version (keywords version members)
  | _ => .anything

def keywords (version : Version) : List (String × Json) → List Keyword
  | [] => []
  | (name, value) :: rest =>
    let first := match name, value with
      | "type", value => .rule (.kinds version.exactIntegers (kinds value))
      | "required", value => .rule (.required (strings value))
      | "properties", .object members => .properties (named version members)
      | "additionalProperties", value => .others (rule version value)
      | "items", .array items => .rule (.tuple (each version items))
      | "items", value => .rule (.items (rule version value))
      | "enum", .array values => .rule (.listed values)
      | "oneOf", .array options => .rule (.oneOf (each version options))
      | "minimum", .number bound => .rule (.atLeast bound)
      | "maximum", .number bound => .rule (.atMost bound)
      | "$ref", .string reference => .reference (.definition reference)
      | _, _ => .ignored
    first :: keywords version rest

def named (version : Version) : List (String × Json) → List (String × Rule)
  | [] => []
  | (name, value) :: rest => (name, rule version value) :: named version rest

def each (version : Version) : List Json → List Rule
  | [] => []
  | value :: rest => rule version value :: each version rest

end

/-- Follows names, and the names in the rules that these lead to, and adds every rule to those
found. Every level of `more` finds a name that was not there before. -/
def gather (version : Version) (root : Json) :
    Nat → List (String × Rule) → List String → Except Defect (List (String × Rule))
  | 0, found, _ => .ok found
  | more + 1, found, names =>
    names.foldlM (fun found name =>
      if (found.lookup name).isSome then .ok found
      else do
        let target ← version.checkForm (← place root name)
        let rule := rule version target
        gather version root more (found ++ [(name, rule)]) rule.names) found

def ofJson (value : Json) : Except Defect Schema := do
  let version ← Version.ofSchema value
  let root := rule version (← version.checkForm value)
  .ok ⟨root, ← gather version value value.size [] root.names⟩

end Schema

end Blueprint
