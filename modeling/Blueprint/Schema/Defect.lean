import Blueprint.Schema.Message

/-!
What makes a JSON value no schema, and the wording of it.
-/

namespace Blueprint.Schema

/-- What is wrong with the text of a reference, and at which byte. -/
inductive StrayText where
  | character (index : Nat)
  | escape (index : Nat)
  deriving DecidableEq, Repr

inductive Defect where
  | unknownVersion (address : String)
  | wrongKind (value : Json) (allowed : List Kind)
  | noOption (value : Json)
  | empty
  | repeated (value : Json)
  | noReference (text : String)
  | strayText (reference : String) (stray : StrayText)
  | noSuchPlace (pointer : String)
  | noIndex (index pointer : String)
  | noText (pointer : String)
  | noAnchor (name : String)

def StrayText.text : StrayText → String
  | .character index => s!"unexpected character at index {index}"
  | .escape index => s!"invalid percent-encoded octet at index {index}"

namespace Defect

def text : Defect → String
  | unknownVersion address => s!"Unknown specification: {address}"
  | wrongKind value allowed => wrongKindText value allowed
  | noOption value =>
    s!"{value.compact} is not valid under any of the schemas listed in the 'anyOf' keyword"
  | empty => "[] has less than 1 item"
  | repeated value => s!"{value.compact} has non-unique elements"
  | noReference text => (Json.string text).compact ++ " is not a \"uri-reference\""
  | strayText reference stray => s!"Invalid URI reference '{reference}': {stray.text}"
  | noSuchPlace pointer => s!"Pointer '{pointer}' does not exist"
  | noIndex index pointer => s!"Failed to parse array index '{index}' in pointer '{pointer}'"
  | noText pointer =>
    s!"Invalid percent encoding in pointer '{pointer}': "
      ++ "the decoded bytes do not represent valid UTF-8"
  | noAnchor name => s!"Anchor '{name}' does not exist"

end Defect

end Blueprint.Schema
