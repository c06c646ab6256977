import Blueprint.Proofs.Template.References
import Blueprint.Proofs.Template.Table
import Mathlib.Data.List.Infix

/-!
Texts whose references are all to names that are no constants, which the pass leaves as they are. If
no value has a dollar sign, what the pass makes of a text is one of them, unless a reference to a
constant stands directly behind an opening.
-/

namespace Blueprint.Template

open Token

/-- No displayed value has a dollar sign. -/
def ConstantTable.DollarFree (table : ConstantTable) : Prop :=
  ∀ entry ∈ table.entries, '$' ∉ entry.2.display.toList

instance (table : ConstantTable) : Decidable table.DollarFree :=
  inferInstanceAs (Decidable (∀ entry ∈ table.entries, '$' ∉ entry.2.display.toList))

variable {table : ConstantTable} {text rest : List Char}

/-- All references of a text are to names that are no constants. -/
def Settled (table : ConstantTable) (text : List Char) : Prop :=
  ∀ key, .reference key ∈ scan text → table.get? key = none

/-! ### Dollar signs go away -/

theorem free_of_known (plain : table.DollarFree) {key : String} {value : Constant}
    (known : table.get? key = some value) : '$' ∉ value.display.toList :=
  plain _ (ConstantTable.mem_of_get? known)

theorem count_expand_lt (plain : table.DollarFree) {key : String}
    (known : table.get? key ≠ none) :
    ((Token.reference key).expand table).count '$' < (Token.reference key).slice.count '$' := by
  obtain ⟨value, known⟩ := Option.ne_none_iff_exists'.mp known
  rw [expand_of_known known, List.count_eq_zero.mpr (free_of_known plain known)]
  exact List.count_pos_iff.mpr List.mem_cons_self

theorem count_expand_le (plain : table.DollarFree) (token : Token) :
    (token.expand table).count '$' ≤ token.slice.count '$' := by
  by_cases known : ∃ key, token = .reference key ∧ table.get? key ≠ none
  · obtain ⟨key, rfl, known⟩ := known
    exact Nat.le_of_lt (count_expand_lt plain known)
  · refine Nat.le_of_eq (congrArg (List.count '$') ?_)
    cases token with
    | reference key =>
      refine expand_of_unknown ?_
      by_contra found
      exact known ⟨key, rfl, found⟩
    | _ => rfl

theorem count_expand_all_le (plain : table.DollarFree) (tokens : List Token) :
    (tokens.flatMap (Token.expand table)).count '$' ≤ (tokens.flatMap slice).count '$' := by
  induction tokens with
  | nil => exact Nat.le_refl _
  | cons token rest ih =>
    have here := count_expand_le plain token
    rw [List.flatMap_cons, List.flatMap_cons, List.count_append, List.count_append]
    omega

/-- Each reference to a constant costs a dollar sign. -/
theorem count_substituteReferences_lt (plain : table.DollarFree)
    (unsettled : ¬Settled table text) :
    (substituteReferences table text).count '$' < text.count '$' := by
  obtain ⟨key, unsettled⟩ := not_forall.mp unsettled
  obtain ⟨member, known⟩ := Classical.not_imp.mp unsettled
  obtain ⟨before, after, tokens⟩ := List.append_of_mem member
  have written := slices_scan text
  have here := count_expand_lt plain known
  have front := count_expand_all_le plain before
  have behind := count_expand_all_le plain after
  rw [tokens] at written
  rw [substituteReferences_eq, tokens, ← written]
  simp only [List.flatMap_append, List.flatMap_cons, List.count_append]
  omega

theorem substituteReferences_of_settled (settled : Settled table text) :
    substituteReferences table text = text := by
  have same : ∀ token ∈ scan text, token.expand table = token.slice := by
    intro token member
    cases token with
    | reference key => exact expand_of_unknown (settled key member)
    | _ => rfl
  rw [substituteReferences_eq, List.flatMap_congr same, slices_scan]

/-- A text that the pass leaves alone has no reference to a constant. -/
theorem substituteReferences_eq_self_iff (plain : table.DollarFree) :
    substituteReferences table text = text ↔ Settled table text := by
  refine ⟨fun same => ?_, substituteReferences_of_settled⟩
  by_contra unsettled
  have fewer := count_substituteReferences_lt plain unsettled
  rw [same] at fewer
  exact Nat.lt_irrefl _ fewer

/-! ### Texts in front of a settled one -/

theorem reference_mem_dropWhile (key : String) (text : List Char) :
    .reference key ∈ scan (text.dropWhile isPlain) ↔ .reference key ∈ scan text := by
  cases text with
  | nil => rfl
  | cons c rest =>
    rw [List.dropWhile_cons]
    split
    · next plain => simp [scan_plain plain]
    · rfl

theorem settled_cons_iff {c : Char} (plain : isPlain c = true) :
    Settled table (c :: rest) ↔ Settled table rest := by
  refine forall_congr' fun key => imp_congr_left ?_
  rw [scan_plain plain, List.mem_cons, ← reference_mem_dropWhile key rest]
  simp

theorem settled_plain_iff {run : List Char} (plain : ∀ c ∈ run, isPlain c = true) :
    Settled table (run ++ rest) ↔ Settled table rest := by
  induction run with
  | nil => rfl
  | cons c run ih =>
    obtain ⟨here, later⟩ := List.forall_mem_cons.mp plain
    rw [List.cons_append, settled_cons_iff here, ih later]

theorem settled_keyChars_iff {name : List Char} (keyChars : ∀ c ∈ name, isKeyChar c = true) :
    Settled table (name ++ rest) ↔ Settled table rest :=
  settled_plain_iff fun c member => isPlain_of_isKeyChar (keyChars c member)

/-- A token in front of a settled text leaves it settled unless it is a reference to a constant. -/
theorem Settled.of_scan (settled : Settled table rest) {token : Token}
    (cut : scan text = token :: scan rest)
    (unknown : ∀ key, token = .reference key → table.get? key = none) : Settled table text := by
  intro key member
  rw [cut] at member
  rcases List.mem_cons.mp member with same | later
  · exact unknown key same.symm
  · exact settled key later

/-- An opening taken away leaves no reference behind that was not there before. -/
theorem Settled.behind_opening (settled : Settled table ('$' :: '(' :: rest)) :
    Settled table rest := by
  rcases opened_cases rest with ⟨name, after, isName, rfl, _⟩ |
    ⟨name, after, keyChars, stops, open_ended, rfl, _⟩
  · rw [settled_keyChars_iff isName.keyChars, settled_cons_iff (by decide)]
    intro key member
    exact settled key (by rw [scan_reference isName]; exact List.mem_cons_of_mem _ member)
  · rw [settled_keyChars_iff keyChars]
    intro key member
    exact settled key (by
      rw [scan_unclosed keyChars stops open_ended]; exact List.mem_cons_of_mem _ member)

theorem Settled.backslash (settled : Settled table rest) : Settled table ('\\' :: rest) := by
  by_cases escapes : ∃ after, rest = '$' :: '(' :: after
  · obtain ⟨after, rfl⟩ := escapes
    exact settled.behind_opening.of_scan (scan_escaped after) (by simp)
  · exact settled.of_scan (scan_backslash fun after same => escapes ⟨after, same⟩) (by simp)

/-- What has no dollar sign completes nothing behind it. -/
theorem Settled.free (settled : Settled table rest) {free : List Char} (none : '$' ∉ free) :
    Settled table (free ++ rest) := by
  induction free with
  | nil => exact settled
  | cons c free ih =>
    rw [List.mem_cons, not_or] at none
    by_cases backslash : c = '\\'
    · rw [backslash]
      exact (ih none.2).backslash
    · have plain : isPlain c = true := by simp [isPlain, backslash, Ne.symm none.1]
      exact (settled_cons_iff plain).mpr (ih none.2)

/-- A dollar sign behind a backslash begins no reference. -/
theorem Settled.protected_dollar (settled : Settled table rest) :
    Settled table ('\\' :: '$' :: rest) := by
  by_cases escapes : ∃ after, rest = '(' :: after
  · obtain ⟨after, rfl⟩ := escapes
    exact ((settled_cons_iff (by decide)).mp settled).of_scan (scan_escaped after) (by simp)
  · have lone : rest.head? ≠ some '(' := by
      intro head
      exact escapes ⟨rest.tail, (List.cons_head?_tail head).symm⟩
    have behind : Settled table ('$' :: rest) := settled.of_scan (scan_dollar lone) (by simp)
    exact behind.backslash

/-! ### Openings -/

namespace Token

/-- A dollar sign that opens nothing, or an opening that nothing closes. -/
def isOpening : Token → Bool
  | dollar => true
  | unclosed _ => true
  | _ => false

theorem head?_slice_of_isOpening {token : Token} (opens : token.isOpening = true) :
    token.slice.head? = some '$' := by
  cases token with
  | dollar => rfl
  | unclosed key => rfl
  | _ => cases opens

theorem scan_head?_slice {token : Token} {tokens : List Token}
    (tokenized : scan text = token :: tokens) : token.slice.head? = text.head? := by
  cases text with
  | nil =>
    rw [scan] at tokenized
    cases tokenized
  | cons c rest =>
    rw [scan] at tokenized
    obtain ⟨rfl, _⟩ := List.cons.inj tokenized
    have written := slice_first c rest
    cases sliced : (first c rest).1.slice with
    | nil =>
      have shorter := first_length_le c rest
      rw [sliced, List.nil_append] at written
      rw [written, List.length_cons] at shorter
      omega
    | cons d tail =>
      rw [sliced] at written
      rw [List.head?_cons, List.head?_cons, (List.cons.inj written).1]

end Token

/-- A reference stands directly behind an opening that has no backslash in front of it. -/
def Exposed (text : List Char) (key : String) : Prop :=
  ∃ before opening after, scan text = before ++ opening :: .reference key :: after ∧
    opening.isOpening = true ∧ before.getLast? ≠ some .backslash

theorem Exposed.of_rest {key : String} (exposed : Exposed rest key) {front : List Token}
    (cut : scan text = front ++ scan rest)
    (open_front : front.getLast? ≠ some .backslash ∨ rest.head? ≠ some '$') :
    Exposed text key := by
  obtain ⟨before, opening, after, tokens, opens, free⟩ := exposed
  refine ⟨front ++ before, opening, after, by rw [cut, tokens, List.append_assoc], opens, ?_⟩
  rw [List.getLast?_append]
  cases last : before.getLast? with
  | some token => rwa [last] at free
  | none =>
    rw [List.getLast?_eq_none_iff.mp last, List.nil_append] at tokens
    rcases open_front with front_free | other
    · exact front_free
    · rw [← scan_head?_slice tokens, head?_slice_of_isOpening opens] at other
      exact absurd rfl other

/-- What the pass makes of a text begins as the text does, unless a value comes first. -/
theorem head?_substituteReferences
    (unknown : ∀ key tokens, scan text = .reference key :: tokens → table.get? key = none) :
    (substituteReferences table text).head? = text.head? := by
  rw [substituteReferences_eq]
  cases tokenized : scan text with
  | nil =>
    have written := slices_scan text
    rw [tokenized] at written
    rw [← written]
    rfl
  | cons token tokens =>
    have same : token.expand table = token.slice := by
      cases token with
      | reference key => exact expand_of_unknown (unknown key tokens tokenized)
      | _ => rfl
    have head := scan_head?_slice tokenized
    rw [List.flatMap_cons, same, List.head?_append, head]
    cases text with
    | nil =>
      rw [scan] at tokenized
      cases tokenized
    | cons c rest => rfl

/-! ### One token more in front of what the pass has settled -/

theorem settled_escaped (settled : Settled table (substituteReferences table rest)) :
    Settled table (substituteReferences table ('\\' :: '$' :: '(' :: rest)) := by
  rw [substituteReferences_of_scan (scan_escaped rest)]
  exact settled.of_scan (scan_escaped _) (by simp)

theorem settled_backslash (free : ∀ after, rest ≠ '$' :: '(' :: after)
    (settled : Settled table (substituteReferences table rest)) :
    Settled table (substituteReferences table ('\\' :: rest)) := by
  rw [substituteReferences_of_scan (scan_backslash free)]
  exact settled.backslash

theorem settled_protected_dollar (lone : rest.head? ≠ some '(')
    (settled : Settled table (substituteReferences table rest)) :
    Settled table (substituteReferences table ('\\' :: '$' :: rest)) := by
  have free : ∀ after, '$' :: rest ≠ '$' :: '(' :: after := by
    intro after same
    exact lone (congrArg List.head? (List.cons.inj same).2)
  rw [substituteReferences_of_scan (scan_backslash free),
    substituteReferences_of_scan (scan_dollar lone)]
  exact settled.protected_dollar

theorem settled_reference (plain : table.DollarFree) {name : List Char} (isName : IsName name)
    (settled : Settled table (substituteReferences table rest)) :
    Settled table (substituteReferences table ('$' :: '(' :: (name ++ ')' :: rest))) := by
  cases known : table.get? (.ofList name) with
  | some value =>
    rw [substituteReferences_of_scan (scan_reference isName rest), expand_of_known known]
    exact settled.free (free_of_known plain known)
  | none =>
    rw [substituteReferences_unknown isName known]
    refine settled.of_scan (scan_reference isName _) fun key same => ?_
    cases same
    exact known

theorem settled_unclosed {name : List Char} (keyChars : ∀ c ∈ name, isKeyChar c = true)
    (stops : Stops isKeyChar rest) (open_ended : name = [] ∨ rest.head? ≠ some ')')
    (head : (substituteReferences table rest).head? = rest.head?)
    (settled : Settled table (substituteReferences table rest)) :
    Settled table (substituteReferences table ('$' :: '(' :: (name ++ rest))) := by
  have still : Stops isKeyChar (substituteReferences table rest) :=
    fun c first => stops c (head.symm.trans first)
  have written : substituteReferences table ('$' :: '(' :: (name ++ rest)) =
      '$' :: '(' :: (name ++ substituteReferences table rest) := by
    rw [substituteReferences_of_scan (scan_unclosed keyChars stops open_ended)]
    simp [Token.expand, Token.slice]
  rw [written]
  exact settled.of_scan (scan_unclosed keyChars still (by rwa [head])) (by simp)

theorem settled_dollar (lone : rest.head? ≠ some '(')
    (head : (substituteReferences table rest).head? = rest.head?)
    (settled : Settled table (substituteReferences table rest)) :
    Settled table (substituteReferences table ('$' :: rest)) := by
  have still : (substituteReferences table rest).head? ≠ some '(' := by rwa [head]
  rw [substituteReferences_of_scan (scan_dollar lone)]
  exact settled.of_scan (scan_dollar still) (by simp)

theorem settled_plain {run : List Char} (plain : ∀ c ∈ run, isPlain c = true)
    (settled : Settled table (substituteReferences table rest)) :
    Settled table (substituteReferences table (run ++ rest)) := by
  rw [substituteReferences_plain plain]
  exact (settled_plain_iff plain).mpr settled

/-- Openings stay open if no reference to a constant stands directly behind one. The induction goes
from token to token; a backslash takes the lone dollar sign behind it along. -/
theorem settled_substituteReferences (plain : table.DollarFree)
    (hidden : ∀ key, Exposed text key → table.get? key = none) :
    Settled table (substituteReferences table text) := by
  induction size : text.length using Nat.strong_induction_on generalizing text with
  | _ size ih =>
    subst size
    have later (front : List Token) {rest : List Char} (cut : scan text = front ++ scan rest)
        (shorter : rest.length < text.length)
        (open_front : front.getLast? ≠ some .backslash ∨ rest.head? ≠ some '$') :
        Settled table (substituteReferences table rest) :=
      ih rest.length shorter (fun key exposed => hidden key (exposed.of_rest cut open_front)) rfl
    have behind {opening : Token} {rest : List Char} (cut : scan text = opening :: scan rest)
        (opens : opening.isOpening = true) :
        (substituteReferences table rest).head? = rest.head? := by
      refine head?_substituteReferences fun key tokens next => ?_
      exact hidden key ⟨[], opening, tokens, by rw [cut, next]; rfl, opens, by simp⟩
    cases beginning text with
    | empty =>
      intro key member
      rw [substituteReferences_eq, scan, List.flatMap_nil, scan] at member
      cases member
    | escaped after =>
      exact settled_escaped (later [.escaped] (scan_escaped after) (by grind) (.inl (by simp)))
    | @backslash rest free =>
      -- A value may come directly behind a protected dollar sign: it can only make `\$(` of it.
      by_cases dollar : rest.head? = some '$'
      · obtain ⟨more, rfl⟩ := List.head?_eq_some_iff.mp dollar
        have lone : more.head? ≠ some '(' := by
          intro opens
          obtain ⟨after, rfl⟩ := List.head?_eq_some_iff.mp opens
          exact free after rfl
        have cut : scan ('\\' :: '$' :: more) = [.backslash, .dollar] ++ scan more := by
          rw [scan_backslash free, scan_dollar lone]
          rfl
        exact settled_protected_dollar lone (later _ cut (by grind) (.inl (by simp)))
      · exact settled_backslash free
          (later [.backslash] (scan_backslash free) (by simp) (.inr dollar))
    | reference isName after =>
      exact settled_reference plain isName
        (later [.reference _] (scan_reference isName after) (by grind) (.inl (by simp)))
    | unclosed keyChars stops open_ended =>
      have cut := scan_unclosed keyChars stops open_ended
      exact settled_unclosed keyChars stops open_ended (behind cut rfl)
        (later [.unclosed _] cut (by grind) (.inl (by simp)))
    | dollar lone =>
      have cut := scan_dollar lone
      exact settled_dollar lone (behind cut rfl) (later [.dollar] cut (by simp) (.inl (by simp)))
    | @plain c isPlain rest =>
      have run : ∀ d ∈ c :: rest.takeWhile Template.isPlain, Template.isPlain d = true :=
        List.forall_mem_cons.mpr ⟨isPlain, fun d => List.mem_takeWhile_imp⟩
      have shorter := (List.dropWhile_sublist (l := rest) Template.isPlain).length_le
      have settled := settled_plain run (later [.text _] (scan_plain isPlain rest)
        (by simp only [List.length_cons]; omega) (.inl (by simp)))
      rwa [List.cons_append, List.takeWhile_append_dropWhile] at settled

end Blueprint.Template
