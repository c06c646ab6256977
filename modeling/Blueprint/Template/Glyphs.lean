import Blueprint.FileTree
import Blueprint.OrderedMap
import Blueprint.Text.Integer
import Blueprint.Text.Split

/-!
Glyph tables: for every icon a constant whose value is one character. A table is read from lines
of a code point, an equals sign and an icon name, which ends at a bar.
-/

namespace Blueprint.Template

/-- Glyphs by the name of their constant. -/
abbrev GlyphTable := OrderedMap String

inductive GlyphError where
  | unreadable (path : Path) (cause : FileError)
  /-- A line without an equals sign; lines are counted from one. -/
  | malformedLine (number : Nat) (line : String)
  deriving DecidableEq, Repr

def GlyphError.message : GlyphError → String
  | unreadable path cause => s!"Failed to read glyph table {path.display}: {cause.message}"
  | malformedLine number line => s!"Malformed glyph table line {number}: \"{line}\""

namespace GlyphTable

/-- The character whose code point a field begins with, if there is one. -/
def codePoint? (field : List Char) : Option Char :=
  let digits := (Text.trimStart field).takeWhile Text.isDigit
  let code := Text.ofDigits digits
  if digits.isEmpty then none
  else if code.isValidChar then some (.ofNat code)
  else none

/-- Icon names have dashes where constants have underscores. -/
def constantName (field : List Char) : String :=
  .ofList ('_' :: (field.takeWhile (· ≠ '|')).map fun c => if c = '-' then '_' else c)

/-- The entry of a line. A line without an equals sign has none and is wrong; one whose code point
is no character has none and is passed over. -/
def entry? (line : List Char) : Except Unit (Option (String × String)) :=
  match Text.split '=' line with
  | code :: name :: _ =>
    .ok ((codePoint? code).map fun glyph => (constantName name, glyph.toString))
  | _ => .error ()

/-- The entries of lines, the first of which has the given number. -/
def readLines (number : Nat) : List (List Char) → Except GlyphError (List (String × String))
  | [] => .ok []
  | line :: lines =>
    if line.isEmpty then readLines (number + 1) lines
    else match entry? line with
      | .error _ => .error (.malformedLine number (.ofList line))
      | .ok entry => do
        let rest ← readLines (number + 1) lines
        .ok (entry.toList ++ rest)

def ofText (text : String) : Except GlyphError GlyphTable := do
  .ok (OrderedMap.ofList (← readLines 1 (Text.terminatedLines text.toList)))

def load (files : FileTree) (path : Path) : Except GlyphError GlyphTable := do
  ofText (← (files.readText path).mapError (.unreadable path))

end GlyphTable

end Blueprint.Template
