import Blueprint.Proofs.Template.Scan
import Blueprint.Template.Substitute
import Mathlib.Data.List.Basic

/-!
The pass that replaces references in parentheses. It works token by token, so that the parts of a
text on two sides of a seam are replaced apart.
-/

namespace Blueprint.Template

open Token

variable {table : ConstantTable} {text : List Char}

theorem expand_of_ne_reference {token : Token} (other : ∀ key, token ≠ .reference key) :
    token.expand table = token.slice := by
  cases token with
  | reference key => exact absurd rfl (other key)
  | _ => rfl

theorem expand_of_unknown {key : String} (unknown : table.get? key = none) :
    (Token.reference key).expand table = (Token.reference key).slice := by
  simp only [Token.expand, unknown]
  rfl

theorem expand_of_known {key : String} {value : Constant} (known : table.get? key = some value) :
    (Token.reference key).expand table = value.display.toList := by
  simp only [Token.expand, known]
  rfl

theorem mem_of_mem_slice {token : Token} (member : token ∈ scan text) {c : Char}
    (inside : c ∈ token.slice) : c ∈ text := by
  rw [← slices_scan text]
  exact List.mem_flatMap_of_mem member inside

/-- Looking for a dollar sign first makes no difference. -/
theorem substituteReferences_eq (table : ConstantTable) (text : List Char) :
    substituteReferences table text = (scan text).flatMap (Token.expand table) := by
  unfold substituteReferences
  split
  · rfl
  · next free =>
    have same : ∀ token ∈ scan text, token.expand table = token.slice := by
      intro token member
      refine expand_of_ne_reference fun key reference => free ?_
      subst reference
      exact mem_of_mem_slice member List.mem_cons_self
    rw [List.flatMap_congr same, slices_scan]

/-- The pass goes on behind a token as it would begin there. -/
theorem substituteReferences_of_scan {token : Token} {rest : List Char}
    (cut : scan text = token :: scan rest) :
    substituteReferences table text = token.expand table ++ substituteReferences table rest := by
  rw [substituteReferences_eq, cut, List.flatMap_cons, ← substituteReferences_eq]

theorem substituteReferences_append {more : List Char} (seam : Seam text more) :
    substituteReferences table (text ++ more) =
      substituteReferences table text ++ substituteReferences table more := by
  simp only [substituteReferences_eq, scan_append seam, List.flatMap_append]

/-- Plain characters stay, whether or not they are one token with what follows. -/
theorem substituteReferences_cons {c : Char} (plain : isPlain c = true) (rest : List Char) :
    substituteReferences table (c :: rest) = c :: substituteReferences table rest := by
  simp only [substituteReferences_eq, scan_plain plain, List.flatMap_cons, Token.expand,
    Token.slice, String.toList_ofList]
  cases rest with
  | nil => rfl
  | cons d tail =>
    cases next : isPlain d with
    | true =>
      simp only [List.takeWhile_cons, List.dropWhile_cons, next, if_true, scan_plain next,
        List.flatMap_cons, Token.expand, Token.slice, String.toList_ofList]
      rfl
    | false =>
      rw [List.takeWhile_cons, List.dropWhile_cons, next]
      rfl

theorem substituteReferences_plain {run : List Char} (plain : ∀ c ∈ run, isPlain c = true)
    (rest : List Char) :
    substituteReferences table (run ++ rest) = run ++ substituteReferences table rest := by
  induction run with
  | nil => rfl
  | cons c run ih =>
    obtain ⟨here, later⟩ := List.forall_mem_cons.mp plain
    rw [List.cons_append, substituteReferences_cons here, ih later, List.cons_append]

theorem substituteReferences_unknown {name : List Char} (isName : IsName name)
    (unknown : table.get? (.ofList name) = none) (rest : List Char) :
    substituteReferences table ('$' :: '(' :: (name ++ ')' :: rest)) =
      '$' :: '(' :: (name ++ ')' :: substituteReferences table rest) := by
  rw [substituteReferences_of_scan (scan_reference isName rest), expand_of_unknown unknown]
  simp [Token.slice]

theorem substituteReferences_escaped {name : List Char} (isName : IsName name)
    (rest : List Char) :
    substituteReferences table ('\\' :: '$' :: '(' :: (name ++ ')' :: rest)) =
      '\\' :: '$' :: '(' :: (name ++ ')' :: substituteReferences table rest) := by
  have plain : ∀ c ∈ name, isPlain c = true :=
    fun c member => isPlain_of_isKeyChar (isName.keyChars c member)
  rw [substituteReferences_of_scan (scan_escaped _), substituteReferences_plain plain,
    substituteReferences_cons (by decide)]
  rfl

end Blueprint.Template
