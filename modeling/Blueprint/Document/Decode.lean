import Blueprint.Document.Basic
import Blueprint.Json.Writer
import Blueprint.Text.Quoted

/-!
Reading a document from a JSON value. A record may be written as an object or as the list of its
fields; keys that it does not have are ignored.
-/

namespace Blueprint

inductive Expectation where
  | record (name : String)
  | fields (name : String) (size : Nat)
  | text | list | map | byte | fewerItems
  deriving DecidableEq, Repr

inductive DecodeError where
  | wrongType (found : Json) (expected : Expectation)
  | wrongValue (found : Json) (expected : Expectation)
  | wrongLength (length : Nat) (expected : Expectation)
  | missingField (name : String)
  | noVariant (type : String)

def Expectation.message : Expectation → String
  | .record name => s!"struct {name}"
  | .fields name size => s!"struct {name} with {size} elements"
  | .text => "a string"
  | .list => "a sequence"
  | .map => "a map with string keys"
  | .byte => "u8"
  | .fewerItems => "fewer elements in array"

def Json.description : Json → String
  | .null => "null"
  | .bool value => s!"boolean `{value}`"
  | .number (.integer n) => "integer `" ++ String.ofList (Number.integerText n) ++ "`"
  | .number (.double x) => "floating point `" ++ String.ofList (Number.doubleText x) ++ "`"
  | .string text => "string " ++ Text.quoted text
  | .array _ => "sequence"
  | .object _ => "map"

def DecodeError.message : DecodeError → String
  | .wrongType found expected => s!"invalid type: {found.description}, expected {expected.message}"
  | .wrongValue found expected =>
    s!"invalid value: {found.description}, expected {expected.message}"
  | .wrongLength length expected => s!"invalid length {length}, expected {expected.message}"
  | .missingField name => s!"missing field `{name}`"
  | .noVariant type => s!"data did not match any variant of untagged enum {type}"

abbrev Decode (α : Type) := Json → Except DecodeError α

namespace Decode

def text : Decode String
  | .string value => .ok value
  | value => .error (.wrongType value .text)

def list (item : Decode α) : Decode (List α)
  | .array items => items.mapM item
  | value => .error (.wrongType value .list)

def member (value : Decode α) (entry : String × Json) : Except DecodeError (String × α) := do
  .ok (entry.1, ← value entry.2)

def map (value : Decode α) : Decode (OrderedMap α)
  | .object members => do .ok (OrderedMap.ofList (← members.mapM (member value)))
  | value => .error (.wrongType value .map)

def byte : Decode UInt8
  | .number (.integer n) =>
    if 0 ≤ n ∧ n < 256 then .ok (.ofNat n.toNat)
    else .error (.wrongValue (.number (.integer n)) .byte)
  | value => .error (.wrongType value .byte)

/-- Null stands for nothing. -/
def optional (item : Decode α) : Decode (Option α)
  | .null => .ok none
  | value => do .ok (some (← item value))

/-- Takes the first form that fits. -/
def either (type : String) (first second : Decode α) : Decode α := fun value =>
  match first value, second value with
  | .ok result, _ => .ok result
  | .error _, .ok result => .ok result
  | .error _, .error _ => .error (.noVariant type)

def check (decode : Decode α) : Decode Unit := fun value => (decode value).map fun _ => ()

end Decode

/-- The fields of a record, by name or by position. -/
inductive Fields where
  | named (members : List (String × Json))
  | listed (record : String) (size : Nat) (items : List Json)

namespace Fields

/-- Every member of an object that is a field is checked in the order of the object, so that a bad
one is reported before a missing one. -/
def of (record : String) (checks : List (String × Decode Unit)) :
    Json → Except DecodeError Fields
  | .object members => do
    members.forM fun (key, value) => ((checks.lookup key).getD fun _ => .ok ()) value
    .ok (.named members)
  | .array items => .ok (.listed record checks.length items)
  | value => .error (.wrongType value (.record record))

def find? (fields : Fields) (position : Nat) (name : String) : Option Json :=
  match fields with
  | .named members => members.lookup name
  | .listed _ _ items => items[position]?

def required (fields : Fields) (position : Nat) (name : String) (decode : Decode α) :
    Except DecodeError α :=
  match fields.find? position name with
  | some value => decode value
  | none => match fields with
    | .named _ => .error (.missingField name)
    | .listed record size _ => .error (.wrongLength position (.fields record size))

def withDefault (fields : Fields) (position : Nat) (name : String) (default : α)
    (decode : Decode α) : Except DecodeError α :=
  match fields.find? position name with
  | some value => decode value
  | none => .ok default

/-- A list has no items beyond the last field. -/
def finish (fields : Fields) : Except DecodeError Unit :=
  match fields with
  | .named _ => .ok ()
  | .listed _ size items =>
    if items.length ≤ size then .ok () else .error (.wrongLength items.length .fewerItems)

end Fields

open Decode

def Constant.decode : Decode Constant :=
  either "ConstValue" (fun value => do .ok (.text (← Decode.text value)))
    (fun value => do .ok (.list (← Decode.list Decode.text value)))

def Program.decode : Decode Program :=
  either "ProgramSource" (fun value => do .ok (.lines (← list text value)))
    (fun value => do .ok (.path (← text value)))

def ConfigDecl.decode : Decode ConfigDecl := fun value => do
  let fields ← Fields.of "ConfigDecl" [("type", check text), ("value", check text)] value
  let kind ← fields.required 0 "type" text
  let content ← fields.required 1 "value" text
  fields.finish
  .ok ⟨kind, content⟩

def BlockDecl.decode : Decode BlockDecl := fun value => do
  let fields ← Fields.of "BlockDecl" [
    ("id", check text),
    ("links", check (optional (list text))),
    ("config", check (optional ConfigDecl.decode)),
    ("rotation", check (optional byte))] value
  let id ← fields.required 0 "id" text
  let links ← fields.withDefault 1 "links" none (optional (list text))
  let config ← fields.withDefault 2 "config" none (optional ConfigDecl.decode)
  let rotation ← fields.withDefault 3 "rotation" none (optional byte)
  fields.finish
  .ok ⟨id, links, config, rotation⟩

def Info.decode : Decode Info := fun value => do
  let fields ← Fields.of "Info" [
    ("name", check text),
    ("description", check (optional text)),
    ("labels", check (optional (list text))),
    ("authors", check (list text)),
    ("version", check text),
    ("tags", check (optional (map text)))] value
  let name ← fields.required 0 "name" text
  let description ← fields.withDefault 1 "description" none (optional text)
  let labels ← fields.withDefault 2 "labels" none (optional (list text))
  let authors ← fields.required 3 "authors" (list text)
  let version ← fields.required 4 "version" text
  let tags ← fields.withDefault 5 "tags" none (optional (map text))
  fields.finish
  .ok ⟨name, description, labels, authors, version, tags⟩

def Tiles.decode : Decode Tiles := fun value => do
  let fields ← Fields.of "Tiles" [
    ("grid", check (list (list text))),
    ("blocks", check (map BlockDecl.decode)),
    ("programs", check (map Program.decode))] value
  let grid ← fields.required 0 "grid" (list (list text))
  let blocks ← fields.required 1 "blocks" (map BlockDecl.decode)
  let programs ← fields.withDefault 2 "programs" .empty (map Program.decode)
  fields.finish
  .ok ⟨grid, blocks, programs⟩

def Document.decode : Decode Document := fun value => do
  let fields ← Fields.of "SchematicSource" [
    ("info", check Info.decode),
    ("tiles", check Tiles.decode),
    ("consts", check (map Constant.decode))] value
  let info ← fields.required 0 "info" Info.decode
  let tiles ← fields.required 1 "tiles" Tiles.decode
  let consts ← fields.withDefault 2 "consts" .empty (map Constant.decode)
  fields.finish
  .ok ⟨info, tiles, consts⟩

end Blueprint
