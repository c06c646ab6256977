/-!
Cutting text into pieces, the two ways of reading lines, and trimming. Blank characters are those of
the Unicode property `White_Space`, which are more than the blanks of JSON.
-/

namespace Blueprint.Text

variable {α : Type} [DecidableEq α]

/-- Cuts at every occurrence of the separator, so there is always at least one piece. -/
def split (separator : α) : List α → List (List α)
  | [] => [[]]
  | c :: rest =>
    if c = separator then [] :: split separator rest
    else match split separator rest with
      | [] => [[c]]
      | piece :: pieces => (c :: piece) :: pieces

/-- One final occurrence of `mark`, if there is one, is dropped. -/
def dropFinal (mark : Char) (text : List Char) : List Char :=
  if text.getLast? = some mark then text.dropLast else text

/-- Lines end in a newline with an optional carriage return before it. A text that ends in a
newline has an empty last line. -/
def programLines (text : List Char) : List (List Char) :=
  (split '\n' text).map (dropFinal '\r')

/-- As `programLines`, but a final newline starts no further line, and a carriage return at the
very end belongs to its line. -/
def terminatedLines (text : List Char) : List (List Char) :=
  let pieces := split '\n' text
  let last := pieces.getLast?.getD []
  pieces.dropLast.map (dropFinal '\r') ++ if last.isEmpty then [] else [last]

theorem split_ne_nil (separator : α) (text : List α) : split separator text ≠ [] := by
  cases text with
  | nil => simp [split]
  | cons c rest =>
    unfold split
    split
    · simp
    · split <;> simp

def isBlank (c : Char) : Bool :=
  let n := c.toNat
  (9 ≤ n && n ≤ 13) || n == 0x20 || n == 0x85 || n == 0xA0 || n == 0x1680
    || (0x2000 ≤ n && n ≤ 0x200A) || n == 0x2028 || n == 0x2029 || n == 0x202F
    || n == 0x205F || n == 0x3000

def trimStart (text : List Char) : List Char := text.dropWhile isBlank

def trimEnd (text : List Char) : List Char := (trimStart text.reverse).reverse

def trim (text : List Char) : List Char := trimEnd (trimStart text)

end Blueprint.Text
