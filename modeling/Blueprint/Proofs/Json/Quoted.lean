import Blueprint.Json.Quoted
import Blueprint.Json.Writer

/-!
Reading the strings that are written. Every character is read back as it was, whether it is written
as it is, with a letter behind a backslash, or as four hexadecimal digits.
-/

namespace Blueprint

theorem Text.Reader.step_ok {ε α : Type} {reader : Text.Reader ε α} {text rest : List Char}
    {value : α} (success : reader.run text = .ok (value, rest)) :
    reader.step text = .ok ⟨(value, rest), reader.advances success⟩ := by
  unfold Text.Reader.step
  split
  · next result =>
    cases success.symm.trans result
    rfl
  · next result => cases success.symm.trans result

theorem Text.Reader.run_of_step {ε α : Type} {reader : Text.Reader ε α} {text : List Char}
    {read : { read : α × List Char // read.2.length < text.length }}
    (success : reader.step text = .ok read) : reader.run text = .ok read.1 := by
  unfold Text.Reader.step at success
  split at success
  · next result =>
    cases success
    exact result
  · cases success

namespace Json

/-- A control character is written as its number in two hexadecimal digits behind two zeros. -/
theorem hexQuad?_control : ∀ code < 32,
    hexQuad? ['0', '0', hexDigit (code / 16), hexDigit (code % 16)] = some code := by
  decide

theorem codeUnit_control {code : Nat} (control : code < 32) (rest : List Char) :
    codeUnit ('0' :: '0' :: hexDigit (code / 16) :: hexDigit (code % 16) :: rest) =
      .ok (code, rest) := by
  have quad : hexQuad? (List.take 4
      ('0' :: '0' :: hexDigit (code / 16) :: hexDigit (code % 16) :: rest)) = some code :=
    hexQuad?_control code control
  rw [codeUnit, quad]
  rfl

theorem unicodeEscape_control {c : Char} (control : c.toNat < 32) (rest : List Char) :
    unicodeEscape ('0' :: '0' :: hexDigit (c.toNat / 16) :: hexDigit (c.toNat % 16) :: rest) =
      .ok (c, rest) := by
  have notTrailing : isTrailingSurrogate c.toNat = false := by
    simp only [isTrailingSurrogate, Bool.and_eq_false_iff, decide_eq_false_iff_not]
    omega
  have notLeading : isLeadingSurrogate c.toNat = false := by
    simp only [isLeadingSurrogate, Bool.and_eq_false_iff, decide_eq_false_iff_not]
    omega
  unfold unicodeEscape
  rw [codeUnit_control control]
  simp only [bind, Except.bind, notTrailing, notLeading, Bool.false_eq_true, if_false,
    Char.ofNat_toNat]

/-- A character stands for itself, or a backslash is written in front of what the reader takes for
the character. -/
theorem escaped_cases (c : Char) :
    (escaped c = [c] ∧ c ≠ '"' ∧ c ≠ '\\' ∧ ¬c.toNat < 32) ∨
    ∃ meant, escaped c = '\\' :: meant ∧ ∀ rest, escape (meant ++ rest) = .ok (c, rest) := by
  by_cases lettered : c ∈ ['"', '\\', '\x08', '\x0c', '\n', '\r', '\t']
  · right
    simp only [List.mem_cons, List.not_mem_nil, or_false] at lettered
    rcases lettered with rfl | rfl | rfl | rfl | rfl | rfl | rfl <;>
      exact ⟨[_], rfl, fun _ => rfl⟩
  simp only [List.mem_cons, List.not_mem_nil, or_false, not_or] at lettered
  by_cases control : c.toNat < 32
  · refine .inr ⟨['u', '0', '0', hexDigit (c.toNat / 16), hexDigit (c.toNat % 16)], ?_,
      fun rest => unicodeEscape_control control rest⟩
    simp only [escaped, lettered, control, if_false, if_true]
  · refine .inl ⟨?_, lettered.1, lettered.2.1, control⟩
    simp only [escaped, lettered, control, if_false]

/-- The characters of a string up to its closing quote; `done` holds those before them. -/
theorem characters_escaped (done chars rest : List Char) :
    characters done (chars.flatMap escaped ++ '"' :: rest) =
      .ok (.ofList (done.reverse ++ chars), rest) := by
  induction chars generalizing done with
  | nil =>
    rw [List.flatMap_nil, List.nil_append, List.append_nil, characters, if_pos rfl]
  | cons c chars ih =>
    have later := ih (c :: done)
    rw [List.reverse_cons, List.append_assoc, List.singleton_append] at later
    rw [List.flatMap_cons, List.append_assoc, ← later]
    rcases escaped_cases c with ⟨written, notQuote, notBackslash, notControl⟩ |
      ⟨meant, written, read⟩
    · rw [written, List.singleton_append, characters, if_neg notQuote, if_neg notBackslash,
        if_neg notControl]
    · have run : escapeReader.run (meant ++ (chars.flatMap escaped ++ '"' :: rest)) =
          .ok (c, chars.flatMap escaped ++ '"' :: rest) := read _
      rw [written, List.cons_append, characters, if_neg (by decide), if_pos rfl,
        Text.Reader.step_ok run]

/-- A written string is read back behind its opening quote, whatever follows it. -/
theorem characters_quoted (text : String) (rest : List Char) :
    characters [] (text.toList.flatMap escaped ++ '"' :: rest) = .ok (text, rest) := by
  rw [characters_escaped, List.reverse_nil, List.nil_append, String.ofList_toList]

end Json

end Blueprint
