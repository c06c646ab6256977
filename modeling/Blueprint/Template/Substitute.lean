import Blueprint.Template.ConstantTable
import Blueprint.Template.Token

/-!
Replacing references to constants in text. First every reference in parentheses is replaced by the
value of its constant, and values are not looked at again. If a dollar sign remains, every constant
in table order replaces the bare references to it, also those in values put in before, until no
dollar sign is left.
-/

namespace Blueprint.Template

/-- What a token becomes. -/
def Token.expand (table : ConstantTable) (token : Token) : List Char :=
  match token with
  | .reference key => ((table.get? key).map (·.display.toList)).getD token.slice
  | _ => token.slice

def substituteReferences (table : ConstantTable) (text : List Char) : List Char :=
  if '$' ∈ text then (Token.scan text).flatMap (Token.expand table) else text

/-- The references to constants that the table does not have. -/
def unknownReferences (table : ConstantTable) (text : List Char) : List String :=
  (Token.scan text).filterMap fun
    | .reference key => if (table.get? key).isNone then some key else none
    | _ => none

/-- Whether a key stands anywhere in a text with a dollar sign before it. -/
def mentions (key : List Char) : List Char → Bool
  | [] => false
  | c :: rest => (c == '$' && key.isPrefixOf rest) || mentions key rest

/-- Replaces a key with a dollar sign before it wherever it stands, from left to right. -/
def replaceKey (key value : List Char) : List Char → List Char
  | [] => []
  | c :: rest =>
    if c = '$' ∧ key.isPrefixOf rest then value ++ replaceKey key value (rest.drop key.length)
    else c :: replaceKey key value rest
termination_by text => text.length
decreasing_by all_goals simp only [List.length_cons, List.length_drop]; omega

/-- A text that does not mention the key is not gone through again. -/
def replaceMentioned (key value text : List Char) : List Char :=
  if mentions key text then replaceKey key value text else text

/-- Goes through the entries until no dollar sign is left. -/
def replaceEach : List (String × Constant) → List Char → List Char
  | [], text => text
  | (key, value) :: rest, text =>
    let replaced := replaceMentioned key.toList value.display.toList text
    if '$' ∈ replaced then replaceEach rest replaced else replaced

def substituteBare (entries : List (String × Constant)) (text : List Char) : List Char :=
  if '$' ∈ text then replaceEach entries text else text

def substituteChars (table : ConstantTable) (text : List Char) : List Char :=
  substituteBare table.entries (substituteReferences table text)

def substitute (table : ConstantTable) (text : String) : String :=
  .ofList (substituteChars table text.toList)

end Blueprint.Template
