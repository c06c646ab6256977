import Blueprint.Document.SourceError
import Blueprint.Text.Width

/-!
Syntax errors shown in their source: the line of the error between rules, and below it a marker
with the message. Parts are painted for a terminal.
-/

namespace Blueprint.Report

def escapeChar : Char := '\x1b'

/-- Text between the codes that set a colour and reset it. -/
def paint (colour : String) (text : String) : String :=
  s!"{escapeChar}[{colour}m{text}{escapeChar}[0m"

/-- The rules around the excerpt. -/
def rule : String → String := paint "38;5;246"

/-- The rule beside the marker. -/
def faintRule : String → String := paint "38;5;240"

def plain : String → String := paint "38;5;249"

def alarm : String → String := paint "31"

def isLineBreak (c : Char) : Bool :=
  c = '\r' || c = '\n' || c = '\x0b' || c = '\x0c' || c = '\u0085' || c = '\u2028' || c = '\u2029'

/-- Cuts text behind every line break; a carriage return and a newline are one. -/
def linesOf : List Char → List (List Char)
  | [] => []
  | '\r' :: '\n' :: rest => ['\r', '\n'] :: linesOf rest
  | c :: rest =>
    if isLineBreak c then [c] :: linesOf rest
    else match linesOf rest with
      | [] => [[c]]
      | line :: lines => (c :: line) :: lines

/-- The line of a character and its column, both counted from zero, and the text of the line. A
place behind the last line belongs to it. -/
structure Excerpt where
  line : Nat
  column : Nat
  text : List Char
  deriving DecidableEq, Repr

def excerptIn (line offset : Nat) : List (List Char) → Excerpt
  | [] => ⟨line, offset, []⟩
  | [text] => ⟨line, offset, text⟩
  | text :: lines =>
    if offset < text.length then ⟨line, offset, text⟩
    else excerptIn (line + 1) (offset - text.length) lines

def excerpt (source : List Char) (offset : Nat) : Excerpt := excerptIn 0 offset (linesOf source)

def spaces (count : Nat) : String := .ofList (List.replicate count ' ')

/-- The cells of a character, painted one by one. Blanks are shown as spaces. -/
def cells (paint : String → String) (column : Nat) (c : Char) : String :=
  if Text.isBlank c then .join (List.replicate (Text.width column c) (paint " "))
  else paint c.toString

/-- The line without blanks at its end, in which the characters of the span stand out. -/
def paintedLine (span : Span) (start : Nat) (text : List Char) : String :=
  .join (text.zipIdx.map fun (c, column) =>
    let inside := span.start ≤ start + column ∧ start + column < span.stop
    cells (if inside then alarm else plain) column c)

/-- The cells that a column of the line takes. What lies beyond the text takes one each. -/
def cellsAt (text : List Char) (column : Nat) : Nat :=
  match text[column]? with
  | some c => Text.width column c
  | none => 1

/-- One sign repeated over the cells of a column: what fills the first and what the others. -/
structure Sign where
  head : String
  tail : String

def Sign.blank : Sign := ⟨" ", " "⟩

def Sign.draw (sign : Sign) : Nat → String
  | 0 => ""
  | more + 1 => sign.head ++ .join (List.replicate more sign.tail)

/-- A row below the text, as wide as its first `reach` columns. -/
def row (text : List Char) (reach : Nat) (sign : Nat → Sign) : String :=
  .join ((List.range reach).map fun column => (sign column).draw (cellsAt text column))

/-- The marker under the start of the span, which hangs from a line if the span has a character. -/
def markerSign (span : Span) (start column : Nat) : Sign :=
  if column ≠ start then .blank
  else if span.start < span.stop then ⟨alarm "┬", alarm "─"⟩
  else ⟨alarm "│", alarm " "⟩

/-- The branch from the marker to the message. -/
def branchSign (start column : Nat) : Sign :=
  if column < start then .blank
  else if column = start then ⟨alarm "╰", alarm "─"⟩
  else ⟨alarm "─", alarm "─"⟩

/-- How many columns the rows of the marker go beyond the span. -/
def overhang : Nat := 2

def title : String := alarm "Error:" ++ " Schematic file contains invalid JSON\n"

def render (error : SourceError) (source filename : String) : String :=
  if source.isEmpty then title
  else
    let place := excerpt source.toList error.span.start
    let text := Text.trimEnd place.text
    let number := toString (place.line + 1)
    let margin := spaces (number.length + 2)
    let gutter := " " ++ faintRule (spaces number.length ++ " │") ++ " "
    let reach := place.column + (error.span.stop - error.span.start) + overhang
    title
      ++ margin ++ rule "╭" ++ rule "─" ++ rule "["
      ++ s!"{filename}:{number}:{place.column + 1}" ++ rule "]" ++ "\n"
      ++ margin ++ rule "│" ++ "\n"
      ++ " " ++ rule (number ++ " │") ++ " "
      ++ paintedLine error.span (error.span.start - place.column) text ++ "\n"
      ++ gutter ++ row text reach (markerSign error.span place.column) ++ "\n"
      ++ gutter ++ row text reach (branchSign place.column) ++ " " ++ error.message ++ "\n"
      ++ rule (.ofList (List.replicate (number.length + 2) '─') ++ "╯") ++ "\n"

end Blueprint.Report
