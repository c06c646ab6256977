import Blueprint.Proofs.Template.Settled

/-!
Whether replacing references a second time changes anything. Values without a dollar sign bring no
reference of their own, but they can complete an opening that stands directly in front of them:
with `b` for `a`, the text `$($(a))` becomes `$(b)`. The texts for which a second time never changes
anything, whatever the table, are those where no reference stands directly behind an opening.
-/

namespace Blueprint.Template

open Token

variable {table : ConstantTable} {text : List Char}

/-! ### A table that spoils a text -/

/-- A text has a last character, and that is no backslash. -/
def EndsOpen (text : List Char) : Prop := ∃ c, text.getLast? = some c ∧ c ≠ '\\'

theorem endsOpen_append {before after : List Char} (ends : EndsOpen after) :
    EndsOpen (before ++ after) := by
  obtain ⟨c, last, other⟩ := ends
  exact ⟨c, by rw [List.getLast?_append, last]; rfl, other⟩

theorem endsOpen_of_forall {run : List Char} (nonempty : run ≠ [])
    (free : ∀ c ∈ run, c ≠ '\\') : EndsOpen run :=
  ⟨run.getLast nonempty, List.getLast?_eq_some_getLast nonempty,
    free _ (List.getLast_mem nonempty)⟩

theorem Token.endsOpen_slice {token : Token} (wellFormed : token.WellFormed)
    (other : token ≠ .backslash) : EndsOpen token.slice := by
  cases token with
  | escaped => exact ⟨'(', rfl, by decide⟩
  | reference key => exact ⟨')', by simp [slice, List.getLast?_cons], by decide⟩
  | unclosed key =>
    refine endsOpen_of_forall (List.cons_ne_nil _ _) ?_
    simp only [slice, List.mem_cons, forall_eq_or_imp]
    exact ⟨by decide, by decide, fun c member => (ne_of_isKeyChar (wellFormed c member)).2.1⟩
  | dollar => exact ⟨'$', rfl, by decide⟩
  | backslash => exact absurd rfl other
  | text content =>
    refine endsOpen_of_forall wellFormed.1 fun c member => ?_
    have plain := wellFormed.2 c member
    simp only [isPlain, Bool.and_eq_true, bne_iff_ne, ne_eq] at plain
    exact plain.2

/-- If the tokens do not end in a backslash and no value is empty or ends in one, neither does their
expansion, and a reference behind it is not escaped. -/
theorem seam_expanded {before : List Token} (wellFormed : ∀ token ∈ before, token.WellFormed)
    (free : before.getLast? ≠ some .backslash)
    (values : ∀ key value, table.get? key = some value → EndsOpen value.display.toList)
    (after : List Char) : Seam (before.flatMap (Token.expand table)) ('$' :: after) := by
  refine seam_dollar ?_ after
  rcases List.eq_nil_or_concat before with rfl | ⟨front, token, rfl⟩
  · nofun
  · rw [List.concat_eq_append] at free wellFormed ⊢
    rw [List.getLast?_concat] at free
    have here := wellFormed token (List.mem_append_right _ List.mem_cons_self)
    have ends : EndsOpen (token.expand table) := by
      have written := Token.endsOpen_slice here fun same => free (congrArg some same)
      cases token with
      | reference key =>
        cases known : table.get? key with
        | some value =>
          rw [expand_of_known known]
          exact values key value known
        | none => rwa [expand_of_unknown known]
      | _ => exact written
    rw [List.flatMap_append, List.flatMap_singleton]
    have whole : EndsOpen (front.flatMap (Token.expand table) ++ token.expand table) :=
      endsOpen_append ends
    obtain ⟨c, last, other⟩ := whole
    rw [last]
    exact fun same => other (Option.some.inj same)

/-- The value that makes a reference of an opening and the reference behind it. -/
theorem exists_completion {opening : Token} (opens : opening.isOpening = true)
    (wellFormed : opening.WellFormed) {name : List Char} (isName : IsName name) :
    ∃ front value, IsName (front ++ name) ∧ '$' ∉ value ∧ EndsOpen value ∧
      opening.slice ++ value = '$' :: '(' :: (front ++ name ++ [')']) := by
  have free : '$' ∉ name := fun member => (ne_of_isKeyChar (isName.keyChars _ member)).1 rfl
  have ends (front : List Char) : EndsOpen (front ++ [')']) :=
    ⟨')', List.getLast?_concat, by decide⟩
  cases opening with
  | dollar =>
    exact ⟨[], '(' :: name ++ [')'], isName, by simp [free], ends _, rfl⟩
  | unclosed key =>
    refine ⟨key.toList, name ++ [')'], ⟨?_, ?_⟩, by simp [free], ends _, by simp [slice]⟩
    · simp [isName.nonempty]
    · exact List.forall_mem_append.mpr ⟨wellFormed, isName.keyChars⟩
  | _ => cases opens

/-- A table in which two names have the same value. -/
def twoNames (first second : String) (value : List Char) : ConstantTable :=
  (ConstantTable.empty.insert first (.text (.ofList value))).insert second (.text (.ofList value))

theorem get?_twoNames (first second key : String) (value : List Char) :
    (twoNames first second value).get? key =
      if key = second ∨ key = first then some (.text (.ofList value)) else none := by
  rw [twoNames, ConstantTable.get?_insert, ConstantTable.get?_insert]
  by_cases isSecond : key = second
  · simp [isSecond]
  · by_cases isFirst : key = first
    · simp [isFirst]
    · simp only [isSecond, isFirst, or_self, if_false]
      rfl

theorem dollarFree_twoNames (first second : String) {value : List Char} (free : '$' ∉ value) :
    (twoNames first second value).DollarFree := by
  intro entry member
  have valued : entry.2 = .text (.ofList value) := by
    rcases ConstantTable.mem_of_mem_insert member with rfl | earlier
    · rfl
    · rcases ConstantTable.mem_of_mem_insert earlier with rfl | never
      · rfl
      · cases never
  rw [valued]
  simpa [Constant.display] using free

/-- An exposed reference can be given a value that completes the opening in front of it. -/
theorem exists_unsettling {key : String} (exposed : Exposed text key) :
    ∃ table : ConstantTable, table.DollarFree ∧
      substituteReferences table (substituteReferences table text) ≠
        substituteReferences table text := by
  obtain ⟨before, opening, after, tokens, opens, free⟩ := exposed
  have wellFormed : ∀ token ∈ before ++ opening :: .reference key :: after, token.WellFormed :=
    fun token member => wellFormed_of_mem_scan (tokens ▸ member)
  simp only [List.forall_mem_append, List.forall_mem_cons] at wellFormed
  obtain ⟨frontFormed, openingFormed, isName, _⟩ := wellFormed
  obtain ⟨front, value, completed, plain, ends, joined⟩ :=
    exists_completion opens openingFormed isName
  let table := twoNames (.ofList (front ++ key.toList)) key value
  have dollarFree : table.DollarFree := dollarFree_twoNames _ _ plain
  have values : ∀ other constant, table.get? other = some constant →
      EndsOpen constant.display.toList := by
    intro other constant found
    rw [get?_twoNames] at found
    split at found
    · cases found
      simpa [Constant.display] using ends
    · cases found
  have known : table.get? key = some (.text (.ofList value)) := by
    rw [get?_twoNames, if_pos (.inl rfl)]
  have cut := scan_append
    (seam_expanded frontFormed free values ('(' :: (front ++ key.toList ++ ')' ::
      after.flatMap (Token.expand table))))
  have outcome : substituteReferences table text = before.flatMap (Token.expand table) ++
      '$' :: '(' :: (front ++ key.toList ++ ')' :: after.flatMap (Token.expand table)) := by
    have opened : opening.expand table = opening.slice := by
      cases opening with
      | reference key => cases opens
      | _ => rfl
    have display : (Constant.text (.ofList value)).display.toList = value := String.toList_ofList
    rw [substituteReferences_eq, tokens, List.flatMap_append, List.flatMap_cons,
      List.flatMap_cons, expand_of_known known, opened, display, ← List.append_assoc opening.slice,
      joined]
    simp
  refine ⟨table, dollarFree, fun same => ?_⟩
  -- A text that stays as it is has no reference to a constant; this one has the completed one.
  have settled := (substituteReferences_eq_self_iff dollarFree).mp same
  have unknown := settled (.ofList (front ++ key.toList)) (by
    rw [outcome, cut, scan_reference completed]
    exact List.mem_append_right _ List.mem_cons_self)
  rw [get?_twoNames, if_pos (.inr rfl)] at unknown
  cases unknown

/-! ### Replacing twice -/

/-- For the values without a dollar sign of any table, a second time changes nothing exactly if no
reference of the text stands directly behind an opening; for those of one table it changes nothing
if none to its constants does. -/
theorem references_idempotent_iff (text : List Char) :
    ((∀ table : ConstantTable, table.DollarFree →
      substituteReferences table (substituteReferences table text) =
        substituteReferences table text) ↔ ∀ key, ¬Exposed text key) ∧
    ∀ table : ConstantTable, table.DollarFree →
      (∀ key, Exposed text key → table.get? key = none) →
        substituteReferences table (substituteReferences table text) =
          substituteReferences table text := by
  have settles : ∀ table : ConstantTable, table.DollarFree →
      (∀ key, Exposed text key → table.get? key = none) →
        substituteReferences table (substituteReferences table text) =
          substituteReferences table text :=
    fun table plain hidden =>
      substituteReferences_of_settled (settled_substituteReferences plain hidden)
  refine ⟨⟨fun always key exposed => ?_, fun never table plain => ?_⟩, settles⟩
  · obtain ⟨table, plain, changed⟩ := exists_unsettling exposed
    exact changed (always table plain)
  · exact settles table plain fun key exposed => absurd exposed (never key)

/-- A reference to no constant inside an opening, and one to a constant that could be closed. -/
def openText : List Char := "$($(c))$(a)".toList

def openConstants : ConstantTable := .insertAll .empty [("a", .text "b)"), ("b", .text "X")]

theorem scan_openText : scan openText =
    [.unclosed "", .reference "c", .text ")", .reference "a"] := by
  decide +kernel

theorem references_idempotent_iff_open : Exposed openText "c" ∧ openConstants.DollarFree ∧
    (∀ key, Exposed openText key → openConstants.get? key = none) ∧
    substituteReferences openConstants openText = "$($(c))b)".toList ∧
    substituteReferences openConstants (substituteReferences openConstants openText) =
      substituteReferences openConstants openText := by
  have plain : openConstants.DollarFree := by decide +kernel
  have hidden : ∀ key, Exposed openText key → openConstants.get? key = none := by
    rintro key ⟨before, opening, after, tokens, opens, -⟩
    rw [scan_openText] at tokens
    match before with
    | [] =>
      cases tokens
      decide +kernel
    | [_] => cases tokens
    | [_, _] =>
      cases tokens
      cases opens
    | _ :: _ :: _ :: _ =>
      have sizes := congrArg List.length tokens
      simp only [List.cons_append, List.length_cons, List.length_append, List.length_nil] at sizes
      omega
  exact ⟨⟨[], _, _, scan_openText, rfl, nofun⟩, plain, hidden, by decide +kernel,
    (references_idempotent_iff openText).2 openConstants plain hidden⟩

/-- Two constants, the first of which is the name of the second. -/
def nestedConstants : ConstantTable := .insertAll .empty [("a", .text "b"), ("b", .text "X")]

/-- A reference inside another one changes twice, although no value has a dollar sign. -/
theorem nested_reference_changes_twice :
    nestedConstants.DollarFree ∧
    substituteReferences nestedConstants "$($(a))".toList = "$(b)".toList ∧
    substituteReferences nestedConstants (substituteReferences nestedConstants "$($(a))".toList) =
      "X".toList ∧
    substitute nestedConstants "$($(a))" = "$(b)" ∧
    substitute nestedConstants (substitute nestedConstants "$($(a))") = "X" := by
  decide +kernel

end Blueprint.Template
