import Blueprint.Event
import Blueprint.Proofs.Template.LongestMatch

/-!
Texts in which substitution leaves no dollar sign. Every dollar sign has to begin a reference to a
constant or stand in front of a name. The passes may change what a name behind a dollar sign belongs
to, but never the characters up to the next dollar sign, so that each of them finds its name in the
end.
-/

namespace Blueprint.Template

open Token

variable {table : ConstantTable} {entries : List (String × Constant)} {text rest free : List Char}

/-! ### Dollar signs in front of names -/

/-- Every dollar sign of a text stands in front of the name of an entry. -/
def AllLead (entries : List (String × Constant)) (text : List Char) : Prop :=
  ∀ rest, '$' :: rest <:+ text → ∃ entry ∈ entries, Leads rest entry = true

theorem AllLead.of_suffix (leads : AllLead entries text) (suffix : rest <:+ text) :
    AllLead entries rest :=
  fun more behind => leads more (behind.trans suffix)

theorem AllLead.cons {c : Char} (leads : AllLead entries rest)
    (here : c = '$' → ∃ entry ∈ entries, Leads rest entry = true) :
    AllLead entries (c :: rest) := by
  intro more suffix
  rcases List.suffix_cons_iff.mp suffix with whole | behind
  · obtain ⟨rfl, rfl⟩ := List.cons.inj whole
    exact here rfl
  · exact leads more behind

theorem AllLead.append (leads : AllLead entries rest) (none : '$' ∉ free) :
    AllLead entries (free ++ rest) := by
  induction free with
  | nil => exact leads
  | cons c free ih =>
    rw [List.mem_cons, not_or] at none
    exact (ih none.2).cons fun dollar => absurd dollar.symm none.1

/-- Without names there is no dollar sign. -/
theorem AllLead.exhausted (leads : AllLead [] text) : '$' ∉ text := by
  intro member
  obtain ⟨before, after, rfl⟩ := List.append_of_mem member
  obtain ⟨_, impossible, _⟩ := leads after (List.suffix_append before ('$' :: after))
  cases impossible

/-! ### The passes for bare references -/

/-- What has no dollar sign stays at the beginning of a text. -/
theorem prefix_replaceKey {key value name : List Char} (none : '$' ∉ name)
    (begins : name <+: text) : name <+: replaceKey key value text := by
  obtain ⟨more, rfl⟩ := begins
  rw [replaceKey_free none]
  exact List.prefix_append name _

/-- After the pass for a name no dollar sign stands in front of it, and those in front of other names
still do. -/
theorem AllLead.replaceEntry {entry : String × Constant}
    (keys : ∀ other ∈ entries, '$' ∉ other.1.toList) (plain : '$' ∉ entry.2.display.toList)
    (leads : AllLead (entry :: entries) text) :
    AllLead entries (replaceEntry text entry) := by
  unfold Template.replaceEntry
  fun_induction replaceKey entry.1.toList entry.2.display.toList text with
  | case1 => exact fun _ suffix => absurd (List.suffix_nil.mp suffix) (List.cons_ne_nil _ _)
  | case2 c rest _ ih =>
    have behind : rest.drop entry.1.toList.length <:+ c :: rest :=
      (List.drop_suffix _ rest).trans (List.suffix_cons c rest)
    exact (ih (leads.of_suffix behind)).append plain
  | case3 c rest absent ih =>
    apply (ih (leads.of_suffix (List.suffix_cons c rest))).cons
    rintro rfl
    obtain ⟨other, listed, begins⟩ := leads rest (List.suffix_refl _)
    rcases List.mem_cons.mp listed with rfl | later
    · exact absurd ⟨rfl, begins⟩ absent
    · exact ⟨other, later, leads_iff.mpr (prefix_replaceKey (keys other later) (leads_iff.mp begins))⟩

theorem AllLead.foldl_replaceEntry (keys : ∀ entry ∈ entries, '$' ∉ entry.1.toList)
    (plain : ∀ entry ∈ entries, '$' ∉ entry.2.display.toList) (leads : AllLead entries text) :
    '$' ∉ entries.foldl Template.replaceEntry text := by
  induction entries generalizing text with
  | nil => exact leads.exhausted
  | cons entry entries ih =>
    obtain ⟨_, otherKeys⟩ := List.forall_mem_cons.mp keys
    obtain ⟨here, others⟩ := List.forall_mem_cons.mp plain
    rw [List.foldl_cons]
    exact ih otherKeys others (leads.replaceEntry otherKeys here)

/-! ### The pass for references in parentheses -/

theorem free_of_keyChars {name : List Char} (keyChars : ∀ c ∈ name, isKeyChar c = true) :
    '$' ∉ name :=
  fun member => (ne_of_isKeyChar (keyChars '$' member)).1 rfl

/-- A text without a dollar sign has no references. -/
theorem unknownReferences_of_free (none : '$' ∉ text) : unknownReferences table text = [] := by
  rw [unknownReferences, List.filterMap_eq_nil_iff]
  intro token member
  cases token with
  | reference key => exact absurd (mem_of_mem_slice member List.mem_cons_self) none
  | _ => rfl

/-- A text goes on with the parentheses of a reference to a constant. -/
def ClosesKnown (table : ConstantTable) (after : List Char) : Prop :=
  ∃ entry ∈ table.entries, IsName entry.1.toList ∧ '(' :: (entry.1.toList ++ [')']) <+: after

instance (table : ConstantTable) (after : List Char) : Decidable (ClosesKnown table after) :=
  inferInstanceAs (Decidable (∃ entry ∈ table.entries,
    IsName entry.1.toList ∧ '(' :: (entry.1.toList ++ [')']) <+: after))

/-- Every dollar sign begins a reference to a constant, without a backslash in front of it, or stands
in front of the name of a constant. -/
def Resolvable (table : ConstantTable) (text : List Char) : Prop :=
  ∀ before after, text = before ++ '$' :: after →
    before.getLast? ≠ some '\\' ∧ ClosesKnown table after ∨
      ∃ entry ∈ table.entries, Leads after entry = true

instance (table : ConstantTable) (text : List Char) : Decidable (Resolvable table text) :=
  decidable_of_iff (∀ i < text.length, text[i]? = some '$' →
      (text.take i).getLast? ≠ some '\\' ∧ ClosesKnown table (text.drop (i + 1)) ∨
        ∃ entry ∈ table.entries, Leads (text.drop (i + 1)) entry = true) <| by
    constructor
    · rintro everywhere before after rfl
      have here := everywhere before.length (by simp) (by simp)
      simpa using here
    · intro resolvable i inside dollar
      apply resolvable (text.take i) (text.drop (i + 1))
      obtain ⟨_, found⟩ := List.getElem?_eq_some_iff.mp dollar
      rw [← found, ← List.drop_eq_getElem_cons inside, List.take_append_drop]

theorem Resolvable.of_append {front : List Char} (resolvable : Resolvable table (front ++ rest)) :
    Resolvable table rest := by
  rintro before after rfl
  refine (resolvable (front ++ before) after (List.append_assoc ..).symm).imp_left ?_
  rintro ⟨unescaped, closes⟩
  refine ⟨fun last => unescaped ?_, closes⟩
  rw [List.getLast?_append, last]
  rfl

/-- What has no dollar sign stays at the beginning of a text. -/
theorem prefix_substituteReferences {name : List Char} (none : '$' ∉ name)
    (begins : name <+: text) : name <+: substituteReferences table text := by
  induction name generalizing text with
  | nil => exact List.nil_prefix
  | cons c name ih =>
    obtain ⟨more, rfl⟩ := begins
    rw [List.mem_cons, not_or] at none
    have later := ih none.2 (List.prefix_append name more)
    by_cases backslash : c = '\\'
    · subst backslash
      by_cases escapes : ∃ after, name ++ more = '$' :: '(' :: after
      · -- The name ends with the backslash, since a dollar sign comes next.
        obtain ⟨after, same⟩ := escapes
        cases name with
        | nil =>
          rw [List.nil_append] at same
          rw [List.singleton_append, same, substituteReferences_of_scan (scan_escaped after)]
          exact List.prefix_append ['\\'] _
        | cons d name =>
          obtain ⟨rfl, _⟩ := List.cons.inj same
          exact absurd List.mem_cons_self none.2
      · have free : ∀ after, name ++ more ≠ '$' :: '(' :: after :=
          fun after same => escapes ⟨after, same⟩
        rw [List.cons_append, substituteReferences_of_scan (scan_backslash free)]
        exact List.cons_prefix_cons.mpr ⟨rfl, later⟩
    · have plain : isPlain c = true := by simp [isPlain, backslash, Ne.symm none.1]
      rw [List.cons_append, substituteReferences_cons plain]
      exact List.cons_prefix_cons.mpr ⟨rfl, later⟩

/-- The same behind a part that is not replaced. -/
theorem prefix_append_substituteReferences {name : List Char} (none : '$' ∉ name)
    (begins : name <+: free ++ rest) : name <+: free ++ substituteReferences table rest := by
  induction free generalizing name with
  | nil => exact prefix_substituteReferences none begins
  | cons c free ih =>
    cases name with
    | nil => exact List.nil_prefix
    | cons d name =>
      rw [List.mem_cons, not_or] at none
      obtain ⟨same, further⟩ := List.cons_prefix_cons.mp begins
      exact List.cons_prefix_cons.mpr ⟨same, ih none.2 further⟩

/-- A dollar sign that is not replaced stands in front of the name that it stood in front of, which
reaches at most over the rest of its token and what follows. -/
theorem AllLead.kept (keys : ∀ entry ∈ table.entries, '$' ∉ entry.1.toList)
    (leads : AllLead table.entries (substituteReferences table rest)) (none : '$' ∉ free)
    (here : ∃ entry ∈ table.entries, Leads (free ++ rest) entry = true) :
    AllLead table.entries ('$' :: (free ++ substituteReferences table rest)) := by
  refine (leads.append none).cons fun _ => ?_
  obtain ⟨entry, listed, begins⟩ := here
  refine ⟨entry, listed, leads_iff.mpr ?_⟩
  exact prefix_append_substituteReferences (keys entry listed) (leads_iff.mp begins)

theorem get?_ne_none {entry : String × Constant} (listed : entry ∈ table.entries) :
    table.get? entry.1 ≠ none := by
  intro absent
  have unlisted := List.lookup_eq_none_iff.mp absent entry listed
  simp at unlisted

/-- A dollar sign that begins no reference to a constant stands in front of a name. -/
theorem Resolvable.leads (resolvable : Resolvable table ('$' :: rest))
    (unknown : ∀ key tokens, scan ('$' :: rest) = .reference key :: tokens →
      table.get? key = none) :
    ∃ entry ∈ table.entries, Leads rest entry = true := by
  rcases resolvable [] rest rfl with ⟨_, entry, listed, isName, after, closes⟩ | leads
  · have tokens : scan ('$' :: rest) = .reference entry.1 :: scan after := by
      rw [← closes, List.cons_append, List.append_assoc, List.singleton_append,
        scan_reference isName, String.ofList_toList]
    exact absurd (unknown entry.1 _ tokens) (get?_ne_none listed)
  · exact leads

/-- The first pass leaves only dollar signs that stand in front of names. The induction goes from
token to token: the end of a token keeps its characters, whatever becomes of the next one. -/
theorem Resolvable.allLead (keys : ∀ entry ∈ table.entries, '$' ∉ entry.1.toList)
    (plain : table.DollarFree) (resolvable : Resolvable table text) :
    AllLead table.entries (substituteReferences table text) := by
  induction size : text.length using Nat.strong_induction_on generalizing text with
  | _ size ih =>
    subst size
    have later (front : List Char) {rest : List Char} (cut : text = front ++ rest)
        (nonempty : front ≠ []) : AllLead table.entries (substituteReferences table rest) := by
      have shorter : rest.length < text.length := by
        have positive := List.length_pos_of_ne_nil nonempty
        rw [cut, List.length_append]
        omega
      exact ih rest.length shorter (cut ▸ resolvable).of_append rfl
    cases beginning text with
    | empty => exact fun _ suffix => by simp [substituteReferences] at suffix
    | escaped after =>
      have none : '$' ∉ ['('] := by decide
      have backslash : '$' ∉ ['\\'] := by decide
      have leads : ∃ entry ∈ table.entries, Leads ('(' :: after) entry = true :=
        (resolvable ['\\'] ('(' :: after) rfl).resolve_left fun both => both.1 rfl
      rw [substituteReferences_of_scan (scan_escaped after)]
      exact ((later ['\\', '$', '('] rfl (by simp)).kept keys none leads).append backslash
    | @backslash rest free =>
      have backslash : '$' ∉ ['\\'] := by decide
      rw [substituteReferences_of_scan (scan_backslash free)]
      exact (later ['\\'] rfl (by simp)).append backslash
    | @reference name isName after =>
      have behind : AllLead table.entries (substituteReferences table after) :=
        later ('$' :: '(' :: (name ++ [')'])) (by simp) (by simp)
      cases known : table.get? (.ofList name) with
      | some value =>
        rw [substituteReferences_of_scan (scan_reference isName after), expand_of_known known]
        exact behind.append (free_of_known plain known)
      | none =>
        have none : '$' ∉ '(' :: (name ++ [')']) := by
          simp [free_of_keyChars isName.keyChars]
        have leads := resolvable.leads fun key tokens scanned => by
          rw [scan_reference isName] at scanned
          cases scanned
          exact known
        have kept := behind.kept keys none (by simpa using leads)
        rw [substituteReferences_unknown isName known]
        simpa using kept
    | @unclosed name after keyChars stops open_ended =>
      have cut := scan_unclosed keyChars stops open_ended
      have none : '$' ∉ '(' :: name := by
        simp [free_of_keyChars keyChars]
      have leads := resolvable.leads fun key tokens scanned => by
        rw [cut] at scanned
        cases scanned
      have behind : AllLead table.entries (substituteReferences table after) :=
        later ('$' :: '(' :: name) (by simp) (by simp)
      have kept := behind.kept keys none leads
      rw [substituteReferences_of_scan cut]
      simpa [Token.expand, Token.slice] using kept
    | @dollar rest lone =>
      have leads := resolvable.leads fun key tokens scanned => by
        rw [scan_dollar lone] at scanned
        cases scanned
      rw [substituteReferences_of_scan (scan_dollar lone)]
      exact (later ['$'] rfl (by simp)).kept keys List.not_mem_nil leads
    | @plain c isPlain rest =>
      rw [substituteReferences_cons isPlain]
      refine (later [c] rfl (by simp)).cons ?_
      rintro rfl
      cases isPlain

/-! ### Both together -/

/-- Where every dollar sign begins a reference to a constant or stands in front of a name, and
neither names nor values have one, no dollar sign is left. Substituting again, with whatever
constants, changes nothing and reports nothing. -/
theorem resolvable_text_exhausted (keys : ∀ entry ∈ table.entries, '$' ∉ entry.1.toList)
    (plain : table.DollarFree) {text : String} (resolvable : Resolvable table text.toList) :
    '$' ∉ (substitute table text).toList ∧
    ∀ other : ConstantTable, substitute other (substitute table text) = substitute table text ∧
      Event.ofText other (substitute table text) = [] := by
  have none : '$' ∉ (substitute table text).toList := by
    rw [substitute, substituteChars, substituteBare_eq_foldl, String.toList_ofList]
    exact (resolvable.allLead keys plain).foldl_replaceEntry keys plain
  refine ⟨none, fun other => ⟨substitute_of_free none other, ?_⟩⟩
  rw [Event.ofText, unknownReferences_of_free none, List.map_nil]

/-- Names with parentheses in them, one of which is the end of a reference, and a value that closes
the parentheses in front of a reference to its constant. -/
def touchingConstants : ConstantTable :=
  .insertAll .empty [("a", .text "b)"), ("b", .text "X"), ("(", .text "["), ("bb", .list ["Y", "Z"]),
    ("(a", .text "!")]

/-- The first reference becomes part of another one, and the last is behind a backslash. -/
def touchingText : String := "$($(a)$b\\$(a)$bb"

theorem resolvable_text_exhausted_touching :
    (∀ entry ∈ touchingConstants.entries, '$' ∉ entry.1.toList) ∧ touchingConstants.DollarFree ∧
    Resolvable touchingConstants touchingText.toList ∧
    '$' ∉ (substitute touchingConstants touchingText).toList ∧
    substitute touchingConstants touchingText = "[b)X\\!)Y, Z" ∧
    substitute touchingConstants (substitute touchingConstants touchingText) =
      substitute touchingConstants touchingText ∧
    Event.ofText touchingConstants (substitute touchingConstants touchingText) = [] := by
  have keys : ∀ entry ∈ touchingConstants.entries, '$' ∉ entry.1.toList := by decide +kernel
  have plain : touchingConstants.DollarFree := by decide +kernel
  have resolvable : Resolvable touchingConstants touchingText.toList := by decide +kernel
  obtain ⟨none, again⟩ := resolvable_text_exhausted keys plain resolvable
  exact ⟨keys, plain, resolvable, none, by decide +kernel, again touchingConstants⟩

end Blueprint.Template
