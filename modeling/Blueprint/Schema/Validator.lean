import Blueprint.Schema.Check
import Blueprint.Schema.OfJson

/-!
Checking values against schemas that are given as JSON. Any validator may do it. The standard one
knows the keywords that the schema of documents uses, and others ask for nothing.
-/

namespace Blueprint

/-- The first thing that is wrong with a value: a pointer to where it is, and what it is. -/
structure Finding where
  pointer : String
  detail : String
  deriving DecidableEq, Repr

namespace Finding

/-- The root is a lone slash. -/
def place (finding : Finding) : String := if finding.pointer = "" then "/" else finding.pointer

def message (finding : Finding) : String :=
  s!"Schematic file is invalid: {finding.detail} (at {finding.place})"

end Finding

/-- Turns a schema into a check of values, or tells what makes it no schema. -/
structure Validator where
  compile : Json → Except String (Json → Option Finding)

def Violation.finding (violation : Violation) : Finding :=
  ⟨pointerText violation.path, violation.complaint.text⟩

def Schema.finding? (schema : Schema) (value : Json) : Option Finding :=
  (schema.violation? value).map Violation.finding

def Validator.standard : Validator where
  compile schema := ((Schema.ofJson schema).mapError Schema.Defect.text).map Schema.finding?

end Blueprint
