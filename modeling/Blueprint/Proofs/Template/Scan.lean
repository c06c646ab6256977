import Blueprint.Template.Token
import Mathlib.Data.List.TakeWhile

/-!
Where a text can be cut without cutting a token: before a backslash, and before a dollar sign that
has no backslash in front of it. Scanning the two parts is then scanning the whole.
-/

namespace Blueprint.Template

/-- What can stand between the parentheses of a reference. -/
structure IsName (name : List Char) : Prop where
  nonempty : name ≠ []
  keyChars : ∀ c ∈ name, isKeyChar c = true

instance (name : List Char) : Decidable (IsName name) :=
  decidable_of_iff (name ≠ [] ∧ name.all isKeyChar = true)
    ⟨fun both => ⟨both.1, List.all_eq_true.mp both.2⟩,
      fun isName => ⟨isName.nonempty, List.all_eq_true.mpr isName.keyChars⟩⟩

theorem ne_of_isKeyChar {c : Char} (key : isKeyChar c = true) :
    c ≠ '$' ∧ c ≠ '\\' ∧ c ≠ '(' ∧ c ≠ ')' := by
  refine ⟨?_, ?_, ?_, ?_⟩ <;>
  · rintro rfl
    revert key
    decide

/-- The characters of names stand for themselves. -/
theorem isPlain_of_isKeyChar {c : Char} (key : isKeyChar c = true) : isPlain c = true := by
  obtain ⟨dollar, backslash, _, _⟩ := ne_of_isKeyChar key
  simp [isPlain, dollar, backslash]

namespace Token

/-! ### Runs of characters before a text that does not go on with them -/

/-- A text begins with no character of a class. -/
def Stops (p : Char → Bool) (text : List Char) : Prop := ∀ c, text.head? = some c → p c = false

theorem stops_dropWhile (p : Char → Bool) (text : List Char) : Stops p (text.dropWhile p) := by
  intro c head
  have stopped := List.head?_dropWhile_not p text
  rw [head] at stopped
  exact stopped

theorem takeWhile_append_stops {p : Char → Bool} (text : List Char) {more : List Char}
    (stops : Stops p more) : (text ++ more).takeWhile p = text.takeWhile p := by
  induction text with
  | nil =>
    cases more with
    | nil => rfl
    | cons c rest => rw [List.nil_append, List.takeWhile_cons, stops c rfl]; rfl
  | cons c rest ih => rw [List.cons_append, List.takeWhile_cons, List.takeWhile_cons, ih]

theorem dropWhile_append_stops {p : Char → Bool} (text : List Char) {more : List Char}
    (stops : Stops p more) : (text ++ more).dropWhile p = text.dropWhile p ++ more := by
  induction text with
  | nil =>
    cases more with
    | nil => rfl
    | cons c rest => rw [List.nil_append, List.dropWhile_cons, stops c rfl]; rfl
  | cons c rest ih =>
    rw [List.cons_append, List.dropWhile_cons, List.dropWhile_cons, ih]
    split <;> rfl

/-! ### The token at the start of a text -/

/-- The token of an opening and what follows it, by what stands behind the parenthesis. -/
def opened (inner : List Char) : Token × List Char :=
  match inner.takeWhile isKeyChar, inner.dropWhile isKeyChar with
  | c :: name, ')' :: after => (.reference (.ofList (c :: name)), after)
  | name, after => (.unclosed (.ofList name), after)

theorem first_opening (inner : List Char) : first '$' ('(' :: inner) = opened inner := by
  unfold first opened
  rw [if_neg (by decide), if_pos rfl]
  dsimp only
  split <;> split <;> simp_all

theorem first_dollar {rest : List Char} (lone : rest.head? ≠ some '(') :
    first '$' rest = (.dollar, rest) := by
  unfold first
  rw [if_neg (by decide), if_pos rfl]
  split
  · exact absurd rfl lone
  · rfl

theorem first_backslash {rest : List Char} (free : ∀ after, rest ≠ '$' :: '(' :: after) :
    first '\\' rest = (.backslash, rest) := by
  unfold first
  rw [if_pos rfl]
  split
  · next after => exact absurd rfl (free after)
  · rfl

theorem first_plain {c : Char} (plain : isPlain c = true) (rest : List Char) :
    first c rest = (.text (.ofList (c :: rest.takeWhile isPlain)), rest.dropWhile isPlain) := by
  simp only [isPlain, Bool.and_eq_true, bne_iff_ne, ne_eq] at plain
  unfold first
  rw [if_neg plain.2, if_neg plain.1]

/-- A name behind an opening, with or without a parenthesis that closes it. -/
theorem opened_cases (inner : List Char) :
    (∃ name after, IsName name ∧ inner = name ++ ')' :: after ∧
      opened inner = (.reference (.ofList name), after)) ∨
    ∃ name after, (∀ c ∈ name, isKeyChar c = true) ∧ Stops isKeyChar after ∧
      (name = [] ∨ after.head? ≠ some ')') ∧ inner = name ++ after ∧
      opened inner = (.unclosed (.ofList name), after) := by
  have parts := List.takeWhile_append_dropWhile (p := isKeyChar) (l := inner)
  have keyChars : ∀ c ∈ inner.takeWhile isKeyChar, isKeyChar c = true :=
    fun c => List.mem_takeWhile_imp
  have stops := stops_dropWhile isKeyChar inner
  unfold opened
  generalize inner.takeWhile isKeyChar = taken at parts keyChars ⊢
  generalize inner.dropWhile isKeyChar = dropped at parts stops ⊢
  split
  · next c name after =>
    exact .inl ⟨_, after, ⟨List.cons_ne_nil c name, keyChars⟩, parts.symm, rfl⟩
  · next open_ended =>
    refine .inr ⟨taken, dropped, keyChars, stops, ?_, parts.symm, rfl⟩
    cases taken with
    | nil => exact .inl rfl
    | cons c name =>
      cases dropped with
      | nil => exact .inr nofun
      | cons d after =>
        refine .inr fun closing => ?_
        cases closing
        exact open_ended c name after rfl rfl

theorem opened_name {name : List Char} (isName : IsName name) (after : List Char) :
    opened (name ++ ')' :: after) = (.reference (.ofList name), after) := by
  have stops : Stops isKeyChar (')' :: after) := by
    intro c head
    cases head
    decide
  unfold opened
  rw [takeWhile_append_stops name stops, dropWhile_append_stops name stops,
    List.takeWhile_eq_self_iff.mpr isName.keyChars, List.dropWhile_eq_nil_iff.mpr isName.keyChars]
  obtain ⟨c, tail, rfl⟩ := List.exists_cons_of_ne_nil isName.nonempty
  rfl

theorem opened_unclosed {name after : List Char} (keyChars : ∀ c ∈ name, isKeyChar c = true)
    (stops : Stops isKeyChar after) (open_ended : name = [] ∨ after.head? ≠ some ')') :
    opened (name ++ after) = (.unclosed (.ofList name), after) := by
  unfold opened
  rw [takeWhile_append_stops name stops, dropWhile_append_stops name stops,
    List.takeWhile_eq_self_iff.mpr keyChars, List.dropWhile_eq_nil_iff.mpr keyChars]
  split
  · next closed =>
    rcases open_ended with empty | other
    · cases empty
    · rw [List.nil_append] at closed
      exact absurd (congrArg List.head? closed) other
  · rfl

/-! ### Cutting a text -/

/-- The second text begins with a token of its own, whatever precedes. -/
def Seam (before after : List Char) : Prop :=
  ∀ c, after.head? = some c → c = '\\' ∨ c = '$' ∧ before.getLast? ≠ some '\\'

theorem seam_backslash (before after : List Char) : Seam before ('\\' :: after) :=
  fun _ head => .inl (Option.some.inj head).symm

theorem seam_dollar {before : List Char} (free : before.getLast? ≠ some '\\') (after : List Char) :
    Seam before ('$' :: after) :=
  fun _ head => .inr ⟨(Option.some.inj head).symm, free⟩

theorem Seam.head_ne {before after : List Char} (seam : Seam before after) {c : Char}
    (dollar : c ≠ '$') (backslash : c ≠ '\\') : after.head? ≠ some c := by
  intro head
  rcases seam c head with same | ⟨same, _⟩
  · exact backslash same
  · exact dollar same

theorem Seam.stops {before after : List Char} (seam : Seam before after) {p : Char → Bool}
    (dollar : p '$' = false) (backslash : p '\\' = false) : Stops p after := by
  intro c head
  rcases seam c head with rfl | ⟨rfl, _⟩
  · exact backslash
  · exact dollar

/-- What is left of the first text ends as it did. -/
theorem Seam.of_suffix {before after : List Char} (seam : Seam before after) {left : List Char}
    (suffix : left <:+ before) : Seam left after := by
  intro c head
  refine (seam c head).imp_right fun ⟨same, free⟩ => ⟨same, fun last => free ?_⟩
  obtain ⟨gone, rfl⟩ := suffix
  rw [List.getLast?_append, last]
  rfl

theorem opened_append (inner : List Char) {before more : List Char} (seam : Seam before more) :
    opened (inner ++ more) = ((opened inner).1, (opened inner).2 ++ more) := by
  have stops := seam.stops (p := isKeyChar) (by decide) (by decide)
  rcases opened_cases inner with ⟨name, after, isName, rfl, closed⟩ |
    ⟨name, after, keyChars, stopped, open_ended, rfl, unclosed⟩
  · rw [closed, List.append_assoc, List.cons_append, opened_name isName]
  · rw [unclosed, List.append_assoc]
    refine opened_unclosed keyChars ?_ (open_ended.imp_right fun other => ?_)
    · cases after with
      | nil => exact stops
      | cons c rest => exact stopped
    · cases after with
      | nil => exact seam.head_ne (by decide) (by decide)
      | cons c rest => exact other

/-- The token at the start of a text does not reach over a seam. -/
theorem first_append {c : Char} {rest more : List Char} (seam : Seam (c :: rest) more) :
    first c (rest ++ more) = ((first c rest).1, (first c rest).2 ++ more) := by
  by_cases backslash : c = '\\'
  · subst backslash
    by_cases escapes : ∃ after, rest = '$' :: '(' :: after
    · obtain ⟨after, rfl⟩ := escapes
      rfl
    · have free : ∀ after, rest ≠ '$' :: '(' :: after := fun after same => escapes ⟨after, same⟩
      rw [first_backslash free]
      refine first_backslash fun after same => ?_
      -- The opening that would escape could lie behind the seam, across it, or in front of it.
      match rest with
      | [] =>
        rcases seam '$' (congrArg List.head? same) with other | ⟨_, protects⟩
        · cases other
        · exact protects rfl
      | [_] =>
        cases same
        exact seam.head_ne (c := '(') (by decide) (by decide) rfl
      | _ :: _ :: tail =>
        cases same
        exact free tail rfl
  · by_cases dollar : c = '$'
    · subst dollar
      cases rest with
      | nil =>
        have lone : more.head? ≠ some '(' := seam.head_ne (by decide) (by decide)
        exact first_dollar lone
      | cons d tail =>
        by_cases opening : d = '('
        · subst opening
          rw [List.cons_append, first_opening, first_opening]
          exact opened_append tail seam
        · have lone : (d :: tail).head? ≠ some '(' := fun same => opening (Option.some.inj same)
          rw [first_dollar lone]
          exact first_dollar lone
    · have plain : isPlain c = true := by simp [isPlain, dollar, backslash]
      have stops := seam.stops (p := isPlain) (by decide) (by decide)
      rw [first_plain plain, first_plain plain, takeWhile_append_stops rest stops,
        dropWhile_append_stops rest stops]

theorem first_suffix (c : Char) (rest : List Char) : (first c rest).2 <:+ c :: rest :=
  ⟨_, slice_first c rest⟩

theorem scan_append {text more : List Char} (seam : Seam text more) :
    scan (text ++ more) = scan text ++ scan more := by
  fun_induction scan text with
  | case1 => rfl
  | case2 c rest ih =>
    rw [List.cons_append, scan, first_append seam, ih (seam.of_suffix (first_suffix c rest))]
    rfl

/-! ### The tokens of a text by its beginning -/

/-- The ways in which a text begins, one for each kind of token. -/
inductive Beginning : List Char → Prop where
  | empty : Beginning []
  | escaped (after : List Char) : Beginning ('\\' :: '$' :: '(' :: after)
  | backslash {rest : List Char} (free : ∀ after, rest ≠ '$' :: '(' :: after) :
    Beginning ('\\' :: rest)
  | reference {name : List Char} (isName : IsName name) (after : List Char) :
    Beginning ('$' :: '(' :: (name ++ ')' :: after))
  | unclosed {name after : List Char} (keyChars : ∀ c ∈ name, isKeyChar c = true)
    (stops : Stops isKeyChar after) (open_ended : name = [] ∨ after.head? ≠ some ')') :
    Beginning ('$' :: '(' :: (name ++ after))
  | dollar {rest : List Char} (lone : rest.head? ≠ some '(') : Beginning ('$' :: rest)
  | plain {c : Char} (plain : isPlain c = true) (rest : List Char) : Beginning (c :: rest)

theorem beginning (text : List Char) : Beginning text := by
  match text with
  | [] => exact .empty
  | c :: rest =>
    by_cases backslash : c = '\\'
    · subst backslash
      by_cases escapes : ∃ after, rest = '$' :: '(' :: after
      · obtain ⟨after, rfl⟩ := escapes
        exact .escaped after
      · exact .backslash fun after same => escapes ⟨after, same⟩
    · by_cases dollar : c = '$'
      · subst dollar
        by_cases opens : rest.head? = some '('
        · obtain ⟨inner, rfl⟩ := List.head?_eq_some_iff.mp opens
          rcases opened_cases inner with ⟨name, after, isName, rfl, _⟩ |
            ⟨name, after, keyChars, stops, open_ended, rfl, _⟩
          · exact .reference isName after
          · exact .unclosed keyChars stops open_ended
        · exact .dollar opens
      · exact .plain (by simp [isPlain, dollar, backslash]) rest

theorem scan_escaped (after : List Char) :
    scan ('\\' :: '$' :: '(' :: after) = .escaped :: scan after := by
  rw [scan]
  rfl

theorem scan_backslash {rest : List Char} (free : ∀ after, rest ≠ '$' :: '(' :: after) :
    scan ('\\' :: rest) = .backslash :: scan rest := by
  rw [scan, first_backslash free]

theorem scan_dollar {rest : List Char} (lone : rest.head? ≠ some '(') :
    scan ('$' :: rest) = .dollar :: scan rest := by
  rw [scan, first_dollar lone]

theorem scan_reference {name : List Char} (isName : IsName name) (after : List Char) :
    scan ('$' :: '(' :: (name ++ ')' :: after)) = .reference (.ofList name) :: scan after := by
  rw [scan, first_opening, opened_name isName]

theorem scan_unclosed {name after : List Char} (keyChars : ∀ c ∈ name, isKeyChar c = true)
    (stops : Stops isKeyChar after) (open_ended : name = [] ∨ after.head? ≠ some ')') :
    scan ('$' :: '(' :: (name ++ after)) = .unclosed (.ofList name) :: scan after := by
  rw [scan, first_opening, opened_unclosed keyChars stops open_ended]

theorem scan_plain {c : Char} (plain : isPlain c = true) (rest : List Char) :
    scan (c :: rest) =
      .text (.ofList (c :: rest.takeWhile isPlain)) :: scan (rest.dropWhile isPlain) := by
  rw [scan, first_plain plain]

/-- Tokens written out one after the other are the text. -/
theorem slices_scan (text : List Char) : (scan text).flatMap slice = text := by
  fun_induction scan text with
  | case1 => rfl
  | case2 c rest ih => rw [List.flatMap_cons, ih, slice_first]

/-- The parts of a token are as the scan leaves them. -/
def WellFormed : Token → Prop
  | .reference key => IsName key.toList
  | .unclosed key => ∀ c ∈ key.toList, isKeyChar c = true
  | .text content => content.toList ≠ [] ∧ ∀ c ∈ content.toList, isPlain c = true
  | _ => True

theorem wellFormed_of_mem_scan {token : Token} {text : List Char}
    (member : token ∈ scan text) :
    token.WellFormed := by
  induction size : text.length using Nat.strong_induction_on generalizing text with
  | _ size ih =>
    subst size
    have step {first : Token} {rest : List Char} (cut : scan text = first :: scan rest)
        (shorter : rest.length < text.length) (here : first.WellFormed) : token.WellFormed := by
      rw [cut] at member
      rcases List.mem_cons.mp member with rfl | later
      · exact here
      · exact ih rest.length shorter later rfl
    cases beginning text with
    | empty =>
      rw [scan] at member
      cases member
    | escaped after => exact step (scan_escaped after) (by grind) trivial
    | backslash free => exact step (scan_backslash free) (by simp) trivial
    | reference isName after =>
      refine step (scan_reference isName after) (by grind) ?_
      rwa [WellFormed, String.toList_ofList]
    | unclosed keyChars stops open_ended =>
      refine step (scan_unclosed keyChars stops open_ended) (by grind) ?_
      rwa [WellFormed, String.toList_ofList]
    | dollar lone => exact step (scan_dollar lone) (by simp) trivial
    | @plain c isPlain rest =>
      have shorter := (List.dropWhile_sublist (l := rest) Template.isPlain).length_le
      refine step (scan_plain isPlain rest) (by simp only [List.length_cons]; omega) ?_
      rw [WellFormed, String.toList_ofList]
      exact ⟨List.cons_ne_nil _ _,
        List.forall_mem_cons.mpr ⟨isPlain, fun d => List.mem_takeWhile_imp⟩⟩

end Token

end Blueprint.Template
