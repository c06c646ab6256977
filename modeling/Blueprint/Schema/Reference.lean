import Blueprint.Schema.Defect
import Blueprint.Text.Integer
import Blueprint.Text.Split

/-!
References from one place of a schema to another. A reference is a number sign and the way from the
root, step by step behind slashes.
-/

namespace Blueprint.Schema

def isLetter (c : Char) : Bool := ('a' ≤ c && c ≤ 'z') || ('A' ≤ c && c ≤ 'Z')

/-- The characters that stand for themselves in a reference. -/
def isPlain (c : Char) : Bool :=
  isLetter c || Text.isDigit c || "-._~!$&'()*+,;=:@/?".toList.contains c

def isHexDigit (c : Char) : Bool := (Text.hexDigit? c).isSome

/-- The first thing in the text that a reference cannot hold, which begins at `index`. -/
def strayText? (index : Nat) : List Char → Option StrayText
  | [] => none
  | '%' :: a :: b :: rest =>
    if isHexDigit a && isHexDigit b then strayText? (index + 3) rest else some (.escape index)
  | '%' :: _ => some (.escape index)
  | c :: rest => if isPlain c then strayText? (index + 1) rest else some (.character index)

/-- The bytes of a text in which an escape stands for one. -/
def escapedBytes : List Char → List UInt8
  | '%' :: a :: b :: rest =>
    match Text.hexNumber? [a, b] with
    | some byte => .ofNat byte :: escapedBytes rest
    | none => String.utf8EncodeChar '%' ++ escapedBytes (a :: b :: rest)
  | c :: rest => String.utf8EncodeChar c ++ escapedBytes rest
  | [] => []

/-- The text without its escapes, if their bytes are text. -/
def unescaped? (text : List Char) : Option (List Char) :=
  if text.contains '%' then (String.fromUTF8? ⟨(escapedBytes text).toArray⟩).map String.toList
  else some text

/-- A step without its own escapes for the slash and the tilde. -/
def stepName : List Char → List Char
  | '~' :: '1' :: rest => '/' :: stepName rest
  | '~' :: '0' :: rest => '~' :: stepName rest
  | '~' :: c :: rest => '~' :: c :: stepName rest
  | c :: rest => c :: stepName rest
  | [] => []

/-- The number of an item: digits, with a plus sign allowed before them. -/
def itemIndex? (step : List Char) : Option Nat :=
  let digits := if step.head? = some '+' then step.drop 1 else step
  (Text.natural? digits).filter (· < Nat.pow 2 64)

/-- What a step leads to, if there is anything. -/
def next? (pointer : String) (step : List Char) : Json → Except Defect (Option Json)
  | .array items => match itemIndex? step with
    | some index => .ok items[index]?
    | none => .error (.noIndex (.ofList step) pointer)
  | value => .ok (value.member? (.ofList (stepName step)))

/-- One step into a value, on the way of a pointer. -/
def advance (pointer : String) (value : Json) (step : List Char) : Except Defect Json := do
  match ← next? pointer step value with
  | some next => .ok next
  | none => .error (.noSuchPlace pointer)

/-- The place in a schema that a reference leads to. -/
def place (root : Json) (reference : String) : Except Defect Json :=
  match reference.toList with
  | '#' :: pointer =>
    match strayText? 1 pointer with
    | some stray => .error (.strayText reference stray)
    | none => match pointer with
      | [] => .ok root
      | '/' :: path => match unescaped? path with
        | some path => (Text.split '/' path).foldlM (advance (.ofList pointer)) root
        | none => .error (.noText (.ofList pointer))
      | name => .error (.noAnchor (.ofList name))
  | _ => .error (.noSuchPlace reference)

end Blueprint.Schema
