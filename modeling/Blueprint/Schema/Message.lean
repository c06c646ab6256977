import Blueprint.Json.Writer
import Blueprint.Schema.Basic

/-!
The wording of violations.
-/

namespace Blueprint

def Step.escape (c : Char) : List Char :=
  if c = '~' then ['~', '0'] else if c = '/' then ['~', '1'] else [c]

def Step.text : Step → String
  | .key name => .ofList ('/' :: name.toList.flatMap Step.escape)
  | .index position => s!"/{position}"

/-- The pointer to a value, which is empty for the root. -/
def pointerText (path : List Step) : String := .join (path.map Step.text)

def quotedName (name : String) : String := "\"" ++ name ++ "\""

/-- One kind is named alone, several are listed in a fixed order. -/
def wrongKindText (value : Json) : List Kind → String
  | [kind] => s!"{value.compact} is not of type {quotedName kind.name}"
  | allowed =>
    let names := (Kind.all.filter (allowed.contains ·)).map (quotedName ·.name)
    value.compact ++ " is not of types " ++ ", ".intercalate names

def Complaint.text : Complaint → String
  | .refused value => s!"False schema does not allow {value.compact}"
  | .wrongKind value allowed => wrongKindText value allowed
  | .missing key => (Json.string key).compact ++ " is a required property"
  | .unexpected keys =>
    let names := ", ".intercalate (keys.map fun key => "'" ++ key ++ "'")
    let verb := if keys.length = 1 then "was" else "were"
    s!"Additional properties are not allowed ({names} {verb} unexpected)"
  | .notListed value values => s!"{value.compact} is not one of {(Json.array values).compact}"
  | .noOption value =>
    s!"{value.compact} is not valid under any of the schemas listed in the 'oneOf' keyword"
  | .severalOptions value =>
    s!"{value.compact} is valid under more than one of the schemas listed in the 'oneOf' keyword"
  | .below value bound =>
    s!"{value.compact} is less than the minimum of {(Json.number bound).compact}"
  | .above value bound =>
    s!"{value.compact} is greater than the maximum of {(Json.number bound).compact}"

end Blueprint
