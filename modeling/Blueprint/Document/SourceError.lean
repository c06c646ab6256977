import Blueprint.Json.Reader
import Blueprint.Text.Split

/-!
Syntax errors of a source text, with the characters that they concern. The reader counts bytes
within a line, a span counts characters of the whole text.
-/

namespace Blueprint

structure Span where
  start : Nat
  stop : Nat
  deriving DecidableEq, Repr

structure SourceError where
  problem : Json.SyntaxError
  span : Span
  deriving DecidableEq, Repr

namespace SourceError

/-- How many characters the first `bytes` bytes are, if they end between two characters. -/
def charsIn? : Nat → List Char → Option Nat
  | 0, _ => some 0
  | _ + 1, [] => none
  | bytes + 1, c :: rest =>
    if c.utf8Size ≤ bytes + 1 then (charsIn? (bytes + 1 - c.utf8Size) rest).map (· + 1) else none

/-- The characters before a byte column, or all of them if it lies inside a character. -/
def lineOffset (column : Nat) (line : List Char) : Nat :=
  (charsIn? (min (column - 1) (Json.byteCount line)) line).getD line.length

/-- The number of characters before a place in a text whose lines are given. -/
def offsetIn (column : Nat) : Nat → List (List Char) → Option Nat
  | _, [] => none
  | 0, line :: _ => some (lineOffset column line)
  | before + 1, line :: lines => (offsetIn column before lines).map (line.length + 1 + ·)

/-- The number of characters before a place, whose line is counted from one. -/
def charOffset (text : List Char) (line column : Nat) : Nat :=
  if line = 0 then text.length
  else (offsetIn column (line - 1) (Text.split '\n' text)).getD text.length

/-- One character, or nothing at the end of the text. -/
def spanAt (text : List Char) (place : Json.Position) : Span :=
  let start := charOffset text place.line place.column
  ⟨start, min (start + 1) (max text.length start)⟩

def ofSyntax (text : String) (problem : Json.SyntaxError) : SourceError :=
  ⟨problem, spanAt text.toList problem.position⟩

def message (error : SourceError) : String := error.problem.message

end SourceError

def parseSource (text : String) : Except SourceError Json :=
  (Json.read text).mapError (.ofSyntax text)

end Blueprint
