import Blueprint.Proofs.Json.RoundTrip

/-!
Written values can be told apart. In any layout that puts only blanks between the tokens, two values
with the same text are the same value, however long their numbers are, and the text of a value shows
where it ends.
-/

namespace Blueprint.Json

open Text (isDigit)

/-- Values with at most so many lists and objects around each other, every key once in an object,
and no numbers but integers of some kind. -/
inductive Plain (allowed : Int → Prop) : Nat → Json → Prop where
  | null (depth : Nat) : Plain allowed depth .null
  | bool (depth : Nat) (value : Bool) : Plain allowed depth (.bool value)
  | integer (depth : Nat) {n : Int} (fits : allowed n) :
    Plain allowed depth (.number (.integer n))
  | string (depth : Nat) (text : String) : Plain allowed depth (.string text)
  | array {depth : Nat} {items : List Json} (each : ∀ item ∈ items, Plain allowed depth item) :
    Plain allowed (depth + 1) (.array items)
  | object {depth : Nat} {members : List (String × Json)}
    (distinct : (members.map Prod.fst).Nodup)
    (each : ∀ member ∈ members, Plain allowed depth member.2) :
    Plain allowed (depth + 1) (.object members)

/-- With integers of a machine word such values are read back. -/
theorem Plain.legible {depth : Nat} {value : Json} (plain : Plain IsWord depth value) :
    Legible depth value := by
  induction plain with
  | null depth => exact .null depth
  | bool depth value => exact .bool depth value
  | integer depth fits => exact .integer depth fits
  | string depth text => exact .string depth text
  | array _ ih => exact .array ih
  | object distinct _ ih => exact .object distinct ih

variable {allowed : Int → Prop} {layout : Layout} {level depth : Nat} {value : Json}

/-! ### First characters -/

/-- What the first character of a value tells. -/
inductive Shape where
  | null | bool (value : Bool) | number | string | array | object

def shape : Json → Shape
  | .null => .null
  | .bool value => .bool value
  | .number _ => .number
  | .string _ => .string
  | .array _ => .array
  | .object _ => .object

def Shape.ofFirst? (c : Char) : Option Shape :=
  if c = '-' ∨ isDigit c = true then some .number
  else if c = 'n' then some .null
  else if c = 't' then some (.bool true)
  else if c = 'f' then some (.bool false)
  else if c = '"' then some .string
  else if c = '[' then some .array
  else if c = '\x7b' then some .object
  else none

theorem Shape.ne_of_ofFirst? {c other : Char} {shape : Shape} (first : ofFirst? c = some shape)
    (nothing : ofFirst? other = none) : c ≠ other := by
  rintro rfl
  cases nothing.symm.trans first

theorem Shape.isBlank_of_ofFirst? {c : Char} {shape : Shape} (first : ofFirst? c = some shape) :
    isBlank c = false := by
  simp only [isBlank, Bool.or_eq_false_iff, decide_eq_false_iff_not]
  exact ⟨⟨⟨ne_of_ofFirst? first rfl, ne_of_ofFirst? first rfl⟩, ne_of_ofFirst? first rfl⟩,
    ne_of_ofFirst? first rfl⟩

theorem first_integerText (n : Int) : ∃ c tail, Number.integerText n = c :: tail ∧
    (c = '-' ∨ isDigit c = true) := by
  unfold Number.integerText
  split
  · exact ⟨'-', _, rfl, .inl rfl⟩
  · cases written : Number.digitsOf n.natAbs with
    | nil => exact absurd written Nat.toDigits_ne_nil
    | cons c tail =>
      exact ⟨c, tail, rfl, .inr (isDigit_of_mem_digitsOf (n := n.natAbs) (by simp [written]))⟩

theorem first_write (plain : Plain allowed depth value) (layout : Layout) (level : Nat) :
    ∃ c tail, write layout level value = c :: tail ∧ Shape.ofFirst? c = some value.shape := by
  cases plain with
  | null => exact ⟨'n', _, rfl, rfl⟩
  | bool _ value =>
    cases value with
    | true => exact ⟨'t', _, rfl, rfl⟩
    | false => exact ⟨'f', _, rfl, rfl⟩
  | @integer _ n _ =>
    obtain ⟨c, tail, written, number⟩ := first_integerText n
    exact ⟨c, tail, written, if_pos number⟩
  | string _ text => exact ⟨'"', _, rfl, rfl⟩
  | array _ =>
    change ∃ c tail, bracketed layout level '[' ']' _ = c :: tail ∧ _
    unfold bracketed
    split <;> exact ⟨'[', _, rfl, rfl⟩
  | object _ _ =>
    change ∃ c tail, bracketed layout level '\x7b' '\x7d' _ = c :: tail ∧ _
    unfold bracketed
    split <;> exact ⟨'\x7b', _, rfl, rfl⟩

theorem Plain.begins (plain : Plain allowed depth value) (layout : Layout) (level : Nat) :
    Begins ']' (write layout level value) := by
  obtain ⟨c, tail, written, first⟩ := first_write plain layout level
  exact ⟨c, tail, written, Shape.isBlank_of_ofFirst? first, Shape.ne_of_ofFirst? first rfl⟩

/-- Values whose texts begin alike have the same shape. -/
theorem shape_eq {otherDepth : Nat} {other : Json} {rest more : List Char}
    (plain : Plain allowed depth value) (otherPlain : Plain allowed otherDepth other)
    (same : write layout level value ++ rest = write layout level other ++ more) :
    value.shape = other.shape := by
  obtain ⟨c, tail, written, first⟩ := first_write plain layout level
  obtain ⟨d, otherTail, otherWritten, otherFirst⟩ := first_write otherPlain layout level
  rw [written, otherWritten] at same
  cases (List.cons.inj same).1
  exact Option.some.inj (first.symm.trans otherFirst)

/-! ### Numbers and strings -/

theorem digitsOf_cancel {m n : Nat} {rest more : List Char} (ends : EndsNumber rest)
    (otherEnds : EndsNumber more)
    (same : Number.digitsOf m ++ rest = Number.digitsOf n ++ more) : m = n ∧ rest = more := by
  obtain ⟨taken, dropped⟩ := span_digitsOf m ends
  obtain ⟨otherTaken, otherDropped⟩ := span_digitsOf n otherEnds
  rw [same] at taken dropped
  constructor
  · rw [← appendDigits_digitsOf m, ← taken, otherTaken, appendDigits_digitsOf]
  · exact dropped.symm.trans otherDropped

theorem digitsOf_append_ne_minus {n : Nat} {rest after : List Char} :
    Number.digitsOf n ++ rest ≠ '-' :: after := by
  intro same
  cases written : Number.digitsOf n with
  | nil => exact Nat.toDigits_ne_nil written
  | cons c tail =>
    rw [written] at same
    cases (List.cons.inj same).1
    cases isDigit_of_mem_digitsOf (n := n) (c := '-') (by simp [written])

theorem integerText_cancel {m n : Int} {rest more : List Char} (ends : EndsNumber rest)
    (otherEnds : EndsNumber more)
    (same : Number.integerText m ++ rest = Number.integerText n ++ more) : m = n ∧ rest = more := by
  unfold Number.integerText at same
  by_cases negative : m < 0 <;> by_cases otherNegative : n < 0
  · rw [if_pos negative, if_pos otherNegative] at same
    obtain ⟨size, left⟩ := digitsOf_cancel ends otherEnds (List.cons.inj same).2
    exact ⟨by omega, left⟩
  · rw [if_pos negative, if_neg otherNegative] at same
    exact absurd same.symm digitsOf_append_ne_minus
  · rw [if_neg negative, if_pos otherNegative] at same
    exact absurd same digitsOf_append_ne_minus
  · rw [if_neg negative, if_neg otherNegative] at same
    obtain ⟨size, left⟩ := digitsOf_cancel ends otherEnds same
    exact ⟨by omega, left⟩

theorem quoted_cancel {first second : String} {rest more : List Char}
    (same : quoted first ++ rest = quoted second ++ more) : first = second ∧ rest = more := by
  simp only [quoted, List.cons_append, List.append_assoc, List.nil_append, List.cons.injEq,
    true_and] at same
  have read := characters_quoted first rest
  rw [same, characters_quoted] at read
  simp only [Except.ok.injEq, Prod.mk.injEq] at read
  exact ⟨read.1.symm, read.2.symm⟩

/-! ### Lists and objects -/

/-- The text of an item in front of whatever does not go on with a number is the text of no other
item, and shows where the item ends. -/
def Determines {α : Type} (write : α → List Char) (good : α → Prop) (item : α) : Prop :=
  ∀ other, good other → ∀ rest more, EndsNumber rest → EndsNumber more →
    write item ++ rest = write other ++ more → item = other ∧ rest = more

section Items

variable {α : Type} {write : α → List Char} {good : α → Prop} {items others : List α}
  {line close rest more : List Char} {last : Char}

theorem following_ne_close (blank : ∀ c ∈ close, isBlank c = true) (mark : isBlank last = false)
    (other : last ≠ ',') (item : List Char) (texts : List (List Char)) :
    following line (item :: texts) ++ more ≠ close ++ last :: rest := by
  intro same
  have skipped := congrArg skipBlanks same
  rw [skipBlanks_before blank mark, following_cons, skipBlanks_cons rfl] at skipped
  exact other (List.cons.inj skipped).1.symm

/-- The items behind the first are found one after the other. -/
theorem following_cancel (blank : ∀ c ∈ close, isBlank c = true) (mark : isBlank last = false)
    (other : last ≠ ',') (closes : continuesNumber last = false)
    (each : ∀ item ∈ items, Determines write good item) (fine : ∀ item ∈ others, good item)
    (same : following line (items.map write) ++ (close ++ last :: rest) =
      following line (others.map write) ++ (close ++ last :: more)) :
    items = others ∧ rest = more := by
  induction items generalizing others with
  | nil =>
    cases others with
    | nil => exact ⟨rfl, (List.cons.inj (List.append_cancel_left same)).2⟩
    | cons => exact absurd same.symm (following_ne_close blank mark other _ _)
  | cons item items ih =>
    cases others with
    | nil => exact absurd same (following_ne_close blank mark other _ _)
    | cons next others =>
      obtain ⟨first, later⟩ := List.forall_mem_cons.mp each
      obtain ⟨nextFine, othersFine⟩ := List.forall_mem_cons.mp fine
      rw [List.map_cons, List.map_cons, following_cons, following_cons] at same
      obtain ⟨rfl, behind⟩ := first next nextFine _ _ (endsNumber_following blank closes)
        (endsNumber_following blank closes) (List.append_cancel_left (List.cons.inj same).2)
      obtain ⟨rfl, left⟩ := ih later othersFine behind
      exact ⟨rfl, left⟩

/-- Brackets with nothing in them are not those of a list with items. -/
theorem bracketed_nil_ne {first : Char} (blank : layout.Blank) (mark : isBlank last = false)
    {item : List Char} (begins : Begins last item) (texts : List (List Char)) :
    bracketed layout level first last [] ++ rest ≠
      bracketed layout level first last (item :: texts) ++ more := by
  intro same
  rw [bracketed_cons] at same
  have skipped := congrArg skipBlanks (List.cons.inj same).2
  rw [begins.skipBlanks (blank.line (level + 1))] at skipped
  obtain ⟨c, tail, rfl, _, different⟩ := begins
  have closing : skipBlanks (last :: rest) = last :: rest := skipBlanks_cons mark rest
  exact different (List.cons.inj (closing.symm.trans skipped)).1.symm

theorem bracketed_cancel {first : Char} (blank : layout.Blank) (mark : isBlank last = false)
    (other : last ≠ ',') (closes : continuesNumber last = false)
    (begins : ∀ item, good item → Begins last (write item))
    (each : ∀ item ∈ items, good item ∧ Determines write good item)
    (fine : ∀ item ∈ others, good item)
    (same : bracketed layout level first last (items.map write) ++ rest =
      bracketed layout level first last (others.map write) ++ more) :
    items = others ∧ rest = more := by
  cases items with
  | nil =>
    cases others with
    | nil => exact ⟨rfl, List.append_cancel_left same⟩
    | cons next others =>
      have starts := begins next (fine next List.mem_cons_self)
      exact absurd same (bracketed_nil_ne blank mark starts _)
  | cons item items =>
    obtain ⟨⟨good, determined⟩, later⟩ := List.forall_mem_cons.mp each
    cases others with
    | nil => exact absurd same.symm (bracketed_nil_ne blank mark (begins item good) _)
    | cons next others =>
      obtain ⟨nextFine, othersFine⟩ := List.forall_mem_cons.mp fine
      have ends {texts : List (List Char)} {behind : List Char} :
          EndsNumber (following (layout.line (level + 1)) texts ++
            (layout.line level ++ last :: behind)) :=
        endsNumber_following (blank.line level) closes
      rw [List.map_cons, List.map_cons, bracketed_cons, bracketed_cons] at same
      obtain ⟨rfl, behind⟩ := determined next nextFine _ _ ends ends
        (List.append_cancel_left (List.cons.inj same).2)
      obtain ⟨rfl, left⟩ := following_cancel (blank.line level) mark other closes
        (fun item member => (later item member).2) othersFine behind
      exact ⟨rfl, left⟩

end Items

theorem memberText_determines {good : Json → Prop} {entry : String × Json}
    (determined : Determines (write layout level) good entry.2) :
    Determines (memberText layout level) (fun other => good other.2) entry := by
  intro other fine rest more ends otherEnds same
  simp only [memberText, List.append_assoc, List.cons_append] at same
  obtain ⟨key, same⟩ := quoted_cancel same
  have values := List.append_cancel_left (List.cons.inj same).2
  obtain ⟨value, left⟩ := determined other.2 fine rest more ends otherEnds values
  exact ⟨Prod.ext key value, left⟩

/-! ### Values -/

theorem write_determines (blank : layout.Blank) (plain : Plain allowed depth value) (level : Nat) :
    Determines (write layout level) (fun other => ∃ depth, Plain allowed depth other) value := by
  induction plain generalizing level with
  | null depth =>
    rintro other ⟨_, otherPlain⟩ rest more ends otherEnds same
    have alike := shape_eq (.null depth) otherPlain same
    cases otherPlain with
    | null => exact ⟨rfl, List.append_cancel_left same⟩
    | _ => cases alike
  | bool depth value =>
    rintro other ⟨_, otherPlain⟩ rest more ends otherEnds same
    have alike := shape_eq (.bool depth value) otherPlain same
    cases otherPlain with
    | bool =>
      cases alike
      exact ⟨rfl, List.append_cancel_left same⟩
    | _ => cases alike
  | integer depth fits =>
    rintro other ⟨_, otherPlain⟩ rest more ends otherEnds same
    have alike := shape_eq (.integer depth fits) otherPlain same
    cases otherPlain with
    | integer =>
      obtain ⟨rfl, left⟩ := integerText_cancel ends otherEnds same
      exact ⟨rfl, left⟩
    | _ => cases alike
  | string depth text =>
    rintro other ⟨_, otherPlain⟩ rest more ends otherEnds same
    have alike := shape_eq (.string depth text) otherPlain same
    cases otherPlain with
    | string =>
      obtain ⟨rfl, left⟩ := quoted_cancel same
      exact ⟨rfl, left⟩
    | _ => cases alike
  | @array depth items each ih =>
    rintro other ⟨_, otherPlain⟩ rest more ends otherEnds same
    have alike := shape_eq (.array each) otherPlain same
    cases otherPlain with
    | @array otherDepth others otherEach =>
      change bracketed layout level '[' ']' (writeItems layout (level + 1) items) ++ rest =
        bracketed layout level '[' ']' (writeItems layout (level + 1) others) ++ more at same
      rw [writeItems_eq, writeItems_eq] at same
      have begins (item : Json) (plain : ∃ depth, Plain allowed depth item) :
          Begins ']' (write layout (level + 1) item) :=
        plain.choose_spec.begins layout (level + 1)
      obtain ⟨rfl, left⟩ := bracketed_cancel blank rfl (by decide) rfl begins
        (fun item member => ⟨⟨depth, each item member⟩, ih item member (level + 1)⟩)
        (fun item member => ⟨otherDepth, otherEach item member⟩) same
      exact ⟨rfl, left⟩
    | _ => cases alike
  | @object depth members distinct each ih =>
    rintro other ⟨_, otherPlain⟩ rest more ends otherEnds same
    have alike := shape_eq (.object distinct each) otherPlain same
    cases otherPlain with
    | @object otherDepth others _ otherEach =>
      change bracketed layout level '\x7b' '\x7d' (writeMembers layout (level + 1) members) ++ rest =
        bracketed layout level '\x7b' '\x7d' (writeMembers layout (level + 1) others) ++ more at same
      rw [writeMembers_eq, writeMembers_eq] at same
      obtain ⟨rfl, left⟩ := bracketed_cancel blank rfl (by decide) rfl
        (fun _ _ => ⟨'"', _, rfl, rfl, by decide⟩)
        (fun entry member => ⟨⟨depth, each entry member⟩,
          memberText_determines (ih entry member (level + 1))⟩)
        (fun entry member => ⟨otherDepth, otherEach entry member⟩) same
      exact ⟨rfl, left⟩
    | _ => cases alike

end Blueprint.Json
