/-!
Tokens of text that refers to constants. Every text is a sequence of tokens, and the tokens written
out one after the other are the text again.
-/

namespace Blueprint.Template

inductive Token where
  /-- A backslash before an opened reference, which keeps it from being one. -/
  | escaped
  | reference (key : String)
  /-- An opening without a key or without a closing parenthesis after it. -/
  | unclosed (key : String)
  | dollar
  | backslash
  | text (content : String)
  deriving DecidableEq, Repr

def isKeyChar (c : Char) : Bool :=
  ('A' ≤ c && c ≤ 'Z') || ('a' ≤ c && c ≤ 'z') || ('0' ≤ c && c ≤ '9')
    || c == '_' || c == '.' || c == '-'

def isPlain (c : Char) : Bool := c != '$' && c != '\\'

namespace Token

def slice : Token → List Char
  | escaped => ['\\', '$', '(']
  | reference key => '$' :: '(' :: (key.toList ++ [')'])
  | unclosed key => '$' :: '(' :: key.toList
  | dollar => ['$']
  | backslash => ['\\']
  | text content => content.toList

/-- The longest token at the start of a text, and what follows it. -/
def first (c : Char) (rest : List Char) : Token × List Char :=
  if c = '\\' then
    match rest with
    | '$' :: '(' :: after => (.escaped, after)
    | _ => (.backslash, rest)
  else if c = '$' then
    match rest with
    | '(' :: inner =>
      let key := inner.takeWhile isKeyChar
      match key, inner.dropWhile isKeyChar with
      | _ :: _, ')' :: after => (.reference (.ofList key), after)
      | _, after => (.unclosed (.ofList key), after)
    | _ => (.dollar, rest)
  else (.text (.ofList (c :: rest.takeWhile isPlain)), rest.dropWhile isPlain)

theorem slice_first (c : Char) (rest : List Char) :
    (first c rest).1.slice ++ (first c rest).2 = c :: rest := by
  unfold first
  split
  · next backslash => subst backslash; split <;> rfl
  · split
    · next dollar =>
      subst dollar
      split
      · next inner =>
        have parts := List.takeWhile_append_dropWhile (p := isKeyChar) (l := inner)
        simp only
        split
        · next key left =>
          rw [left] at parts
          simp [slice, parts]
        · simp [slice, parts]
      · rfl
    · simp [slice]

theorem first_length_le (c : Char) (rest : List Char) :
    (first c rest).2.length ≤ rest.length := by
  unfold first
  split
  · split <;> simp only [List.length_cons] <;> omega
  · split
    · split
      · next inner =>
        have left := (List.dropWhile_sublist (l := inner) isKeyChar).length_le
        simp only
        split
        · next closed =>
          rw [closed, List.length_cons] at left
          simp only [List.length_cons]; omega
        · simp only [List.length_cons]; omega
      · exact Nat.le_refl _
    · exact (List.dropWhile_sublist (l := rest) isPlain).length_le

def scan : List Char → List Token
  | [] => []
  | c :: rest => (first c rest).1 :: scan (first c rest).2
termination_by text => text.length
decreasing_by exact Nat.lt_succ_of_le (first_length_le c rest)

end Token

/-- A token with the bytes that it covers, from `start` up to `stop`. -/
structure Lexeme where
  token : Token
  start : Nat
  stop : Nat
  deriving DecidableEq, Repr

/-- Tokens one after the other from a place on. -/
def Lexeme.placed (start : Nat) : List Token → List Lexeme
  | [] => []
  | token :: rest =>
    let stop := start + (String.ofList token.slice).utf8ByteSize
    ⟨token, start, stop⟩ :: placed stop rest

def lex (text : String) : List Lexeme := Lexeme.placed 0 (Token.scan text.toList)

end Blueprint.Template
