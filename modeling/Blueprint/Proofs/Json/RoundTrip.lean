import Blueprint.Proofs.Json.Numeral
import Blueprint.Proofs.Json.Quoted
import Blueprint.Proofs.OrderedMap

/-!
Reading what is written. A value comes back as it was from its text in any layout that puts only
blanks between the tokens, if it is not too deep, has no key twice in an object, and has no numbers
but integers of a machine word.
-/

namespace Blueprint

namespace Json

/-- Values that are read back: at most so many lists and objects around each other, every key once
in an object, and no numbers but integers of a machine word. -/
inductive Legible : Nat → Json → Prop where
  | null (depth : Nat) : Legible depth .null
  | bool (depth : Nat) (value : Bool) : Legible depth (.bool value)
  | integer (depth : Nat) {n : Int} (word : IsWord n) : Legible depth (.number (.integer n))
  | string (depth : Nat) (text : String) : Legible depth (.string text)
  | array {depth : Nat} {items : List Json} (each : ∀ item ∈ items, Legible depth item) :
    Legible (depth + 1) (.array items)
  | object {depth : Nat} {members : List (String × Json)}
    (distinct : (members.map Prod.fst).Nodup)
    (each : ∀ member ∈ members, Legible depth member.2) : Legible (depth + 1) (.object members)

/-- A layout has nothing but blanks between the tokens. -/
structure Layout.Blank (layout : Layout) : Prop where
  line : ∀ depth, ∀ c ∈ layout.line depth, isBlank c = true
  gap : ∀ c ∈ layout.gap, isBlank c = true

theorem Layout.blank_compact : Layout.compact.Blank := ⟨nofun, nofun⟩

theorem Layout.blank_indented : Layout.indented.Blank where
  line depth c member := by
    rcases List.mem_cons.mp member with rfl | space
    · rfl
    · rw [(List.mem_replicate.mp space).2]
      rfl
  gap c member := by
    rw [List.mem_singleton.mp member]
    rfl

/-! ### Blanks -/

variable {blanks : List Char} {rest : List Char}

theorem skipBlanks_append (blank : ∀ c ∈ blanks, isBlank c = true) (text : List Char) :
    skipBlanks (blanks ++ text) = skipBlanks text :=
  List.dropWhile_append_of_pos blank

theorem skipBlanks_cons {c : Char} (other : isBlank c = false) (rest : List Char) :
    skipBlanks (c :: rest) = c :: rest := by
  rw [skipBlanks, List.dropWhile_cons_of_neg (by simp [other])]

theorem skipBlanks_before (blank : ∀ c ∈ blanks, isBlank c = true) {c : Char}
    (other : isBlank c = false) (rest : List Char) :
    skipBlanks (blanks ++ c :: rest) = c :: rest := by
  rw [skipBlanks_append blank, skipBlanks_cons other]

theorem endsNumber_blanks (blank : ∀ c ∈ blanks, isBlank c = true) (ends : EndsNumber rest) :
    EndsNumber (blanks ++ rest) := by
  cases blanks with
  | nil => exact ends
  | cons c blanks =>
    refine .cons ?_ _
    have here := blank c List.mem_cons_self
    simp only [isBlank, Bool.or_eq_true, decide_eq_true_eq] at here
    rcases here with ((rfl | rfl) | rfl) | rfl <;> rfl

/-! ### What stands between brackets -/

/-- Further items, each behind a comma and a line break. -/
def following (line : List Char) (items : List (List Char)) : List Char :=
  items.flatMap fun item => ',' :: (line ++ item)

theorem following_cons (line item : List Char) (items : List (List Char)) (rest : List Char) :
    following line (item :: items) ++ rest =
      ',' :: (line ++ (item ++ (following line items ++ rest))) := by
  simp [following]

theorem intercalate_cons (line item : List Char) (items : List (List Char)) :
    List.intercalate (',' :: line) (item :: items) = item ++ following line items := by
  induction items generalizing item with
  | nil => simp [following]
  | cons next items ih =>
    rw [List.intercalate_cons_cons, ih]
    simp [following]

theorem bracketed_cons (layout : Layout) (depth : Nat) (first last : Char) (item : List Char)
    (items : List (List Char)) (rest : List Char) :
    bracketed layout depth first last (item :: items) ++ rest =
      first :: (layout.line (depth + 1) ++ (item ++
        (following (layout.line (depth + 1)) items ++ (layout.line depth ++ last :: rest)))) := by
  rw [bracketed, if_neg (by simp), intercalate_cons]
  simp

theorem endsNumber_following {line close : List Char} {last : Char} {items : List (List Char)}
    (blank : ∀ c ∈ close, isBlank c = true) (closes : continuesNumber last = false) :
    EndsNumber (following line items ++ (close ++ last :: rest)) := by
  cases items with
  | nil =>
    change EndsNumber (close ++ last :: rest)
    exact endsNumber_blanks blank (.cons closes rest)
  | cons item items => exact .cons rfl _

/-- A written item begins with a character that is neither blank nor closes the brackets. -/
def Begins (last : Char) (written : List Char) : Prop :=
  ∃ c tail, written = c :: tail ∧ isBlank c = false ∧ c ≠ last

theorem Begins.skipBlanks {last : Char} {written : List Char} (begins : Begins last written)
    (blank : ∀ c ∈ blanks, isBlank c = true) (rest : List Char) :
    Json.skipBlanks (blanks ++ (written ++ rest)) = written ++ rest := by
  obtain ⟨c, tail, rfl, notBlank, _⟩ := begins
  exact skipBlanks_before blank notBlank (tail ++ rest)

theorem Begins.head?_ne {last : Char} {written : List Char} (begins : Begins last written)
    (rest : List Char) : (written ++ rest).head? ≠ some last := by
  obtain ⟨c, tail, rfl, _, other⟩ := begins
  exact fun same => other (Option.some.inj same)

/-- A reader takes a written item from in front of whatever does not go on with a number. -/
def Takes {α : Type} (reader : Reader α) (written : List Char) (item : α) : Prop :=
  ∀ rest, EndsNumber rest → reader.run (written ++ rest) = .ok (item, rest)

section Items

variable {item : Reader Json} {done : List Json} {text after left : List Char}

theorem itemsAfter_close (shape : skipBlanks text = ']' :: after) :
    itemsAfter item done text = .ok (.array done.reverse, after) := by
  rw [itemsAfter]
  split
  · next none => cases shape.symm.trans none
  · next c rest found =>
    cases shape.symm.trans found
    rw [if_pos rfl]

theorem itemsAfter_comma {line written : List Char} (blank : ∀ c ∈ line, isBlank c = true)
    (begins : Begins ']' written) {value : Json}
    (read : item.run (written ++ after) = .ok (value, left)) :
    itemsAfter item done (',' :: (line ++ (written ++ after))) =
      itemsAfter item (value :: done) left := by
  have next := begins.skipBlanks blank after
  rw [itemsAfter]
  split
  · next none =>
    rw [skipBlanks_cons rfl] at none
    cases none
  · next c rest found =>
    rw [skipBlanks_cons rfl] at found
    cases found
    have more : ¬(skipBlanks (line ++ (written ++ after))).head? = some ']' := by
      rw [next]
      exact begins.head?_ne after
    rw [← next] at read
    rw [if_neg (by decide), if_pos rfl, if_neg more]
    simp only [Text.Reader.step_ok read]

/-- The items behind the first are read one after the other. -/
theorem itemsAfter_following {line close : List Char} (lineBlank : ∀ c ∈ line, isBlank c = true)
    (closeBlank : ∀ c ∈ close, isBlank c = true) {write : Json → List Char} {items : List Json}
    (each : ∀ value ∈ items, Begins ']' (write value) ∧ Takes item (write value) value)
    (done : List Json) (rest : List Char) :
    itemsAfter item done (following line (items.map write) ++ (close ++ ']' :: rest)) =
      .ok (.array (done.reverse ++ items), rest) := by
  induction items generalizing done with
  | nil =>
    rw [List.append_nil]
    exact itemsAfter_close (skipBlanks_before closeBlank rfl rest)
  | cons value items ih =>
    obtain ⟨⟨begins, takes⟩, later⟩ := List.forall_mem_cons.mp each
    have left := ih later (value :: done)
    rw [List.reverse_cons, List.append_assoc, List.singleton_append] at left
    have ends : EndsNumber (following line (items.map write) ++ (close ++ ']' :: rest)) :=
      endsNumber_following closeBlank rfl
    rw [← left, List.map_cons, following_cons]
    exact itemsAfter_comma lineBlank begins (takes _ ends)

end Items

section Members

variable {value : Reader Json} {done : List (String × Json)} {text after left : List Char}

theorem membersAfter_close (shape : skipBlanks text = '\x7d' :: after) :
    membersAfter value done text = .ok (ofMembers done, after) := by
  rw [membersAfter]
  split
  · next none => cases shape.symm.trans none
  · next c rest found =>
    cases shape.symm.trans found
    rw [if_pos rfl]

theorem membersAfter_member {entry : String × Json} (shape : skipBlanks text = ',' :: after)
    (more : (skipBlanks after).head? ≠ some '\x7d')
    (read : (memberReader value).run (skipBlanks after) = .ok (entry, left)) :
    membersAfter value done text = membersAfter value (entry :: done) left := by
  rw [membersAfter]
  split
  · next none => cases shape.symm.trans none
  · next c rest found =>
    cases shape.symm.trans found
    rw [if_neg (by decide), if_pos rfl, if_neg more]
    simp only [Text.Reader.step_ok read]

theorem membersAfter_comma {line written : List Char} (blank : ∀ c ∈ line, isBlank c = true)
    (begins : Begins '\x7d' written) {entry : String × Json}
    (read : (memberReader value).run (written ++ after) = .ok (entry, left)) :
    membersAfter value done (',' :: (line ++ (written ++ after))) =
      membersAfter value (entry :: done) left := by
  have next := begins.skipBlanks blank after
  rw [← next] at read
  refine membersAfter_member (skipBlanks_cons rfl _) ?_ read
  rw [next]
  exact begins.head?_ne after

/-- The members behind the first are read one after the other. -/
theorem membersAfter_following {line close : List Char} (lineBlank : ∀ c ∈ line, isBlank c = true)
    (closeBlank : ∀ c ∈ close, isBlank c = true) {write : String × Json → List Char}
    {members : List (String × Json)}
    (each : ∀ entry ∈ members, Begins '\x7d' (write entry) ∧
      Takes (memberReader value) (write entry) entry)
    (done : List (String × Json)) (rest : List Char) :
    membersAfter value done (following line (members.map write) ++ (close ++ '\x7d' :: rest)) =
      .ok (ofMembers (members.reverse ++ done), rest) := by
  induction members generalizing done with
  | nil => exact membersAfter_close (skipBlanks_before closeBlank rfl rest)
  | cons entry members ih =>
    obtain ⟨⟨begins, takes⟩, later⟩ := List.forall_mem_cons.mp each
    have left := ih later (entry :: done)
    have ends : EndsNumber (following line (members.map write) ++ (close ++ '\x7d' :: rest)) :=
      endsNumber_following closeBlank rfl
    rw [List.reverse_cons, List.append_assoc, List.singleton_append, ← left, List.map_cons,
      following_cons]
    exact membersAfter_comma lineBlank begins (takes _ ends)

end Members

/-! ### Lists and objects -/

theorem listRest_item {item : Reader Json} {line written after left : List Char} {value : Json}
    (blank : ∀ c ∈ line, isBlank c = true) (begins : Begins ']' written)
    (read : item.run (written ++ after) = .ok (value, left)) :
    listRest item (line ++ (written ++ after)) = itemsAfter item [value] left := by
  rw [listRest, begins.skipBlanks blank after]
  obtain ⟨c, tail, rfl, _, more⟩ := begins
  rw [List.cons_append] at read ⊢
  dsimp only
  rw [if_neg more, read]
  rfl

theorem objectRest_first {value : Reader Json} {text left : List Char} {entry : String × Json}
    (other : (skipBlanks text).head? ≠ some '\x7d')
    (read : (memberReader value).run (skipBlanks text) = .ok (entry, left)) :
    objectRest value text = membersAfter value [entry] left := by
  have first : member value (skipBlanks text) = .ok (entry, left) := read
  rw [objectRest]
  cases shape : skipBlanks text with
  | nil =>
    rw [shape] at first
    cases first
  | cons c rest =>
    rw [shape] at first other
    have more : c ≠ '\x7d' := by simpa using other
    dsimp only
    rw [if_neg more, first]
    rfl

theorem objectRest_member {value : Reader Json} {line written after left : List Char}
    {entry : String × Json} (blank : ∀ c ∈ line, isBlank c = true) (begins : Begins '\x7d' written)
    (read : (memberReader value).run (written ++ after) = .ok (entry, left)) :
    objectRest value (line ++ (written ++ after)) = membersAfter value [entry] left := by
  have next := begins.skipBlanks blank after
  rw [← next] at read
  refine objectRest_first ?_ read
  rw [next]
  exact begins.head?_ne after

variable {layout : Layout} {level : Nat}

theorem valueText_array (blank : layout.Blank) {item : Reader Json} {write : Json → List Char}
    {items : List Json}
    (each : ∀ value ∈ items, Begins ']' (write value) ∧ Takes item (write value) value)
    (rest : List Char) :
    valueText (some item) (bracketed layout level '[' ']' (items.map write) ++ rest) =
      .ok (.array items, rest) := by
  cases items with
  | nil => rfl
  | cons value items =>
    obtain ⟨⟨begins, takes⟩, later⟩ := List.forall_mem_cons.mp each
    rw [List.map_cons, bracketed_cons]
    have ends : EndsNumber (following (layout.line (level + 1)) (items.map write) ++
        (layout.line level ++ ']' :: rest)) := endsNumber_following (blank.line level) rfl
    change listRest item _ = _
    rw [listRest_item (blank.line (level + 1)) begins (takes _ ends)]
    exact itemsAfter_following (blank.line (level + 1)) (blank.line level) later [value] rest

theorem ofMembers_reverse {members : List (String × Json)}
    (distinct : (members.map Prod.fst).Nodup) : ofMembers members.reverse = .object members := by
  rw [ofMembers, List.reverse_reverse, OrderedMap.ofList_of_nodup distinct]

theorem valueText_object (blank : layout.Blank) {value : Reader Json}
    {write : String × Json → List Char} {members : List (String × Json)}
    (distinct : (members.map Prod.fst).Nodup)
    (each : ∀ entry ∈ members, Begins '\x7d' (write entry) ∧
      Takes (memberReader value) (write entry) entry)
    (rest : List Char) :
    valueText (some value) (bracketed layout level '\x7b' '\x7d' (members.map write) ++ rest) =
      .ok (.object members, rest) := by
  rw [← ofMembers_reverse distinct]
  cases members with
  | nil => rfl
  | cons entry members =>
    obtain ⟨⟨begins, takes⟩, later⟩ := List.forall_mem_cons.mp each
    rw [List.map_cons, bracketed_cons]
    have ends : EndsNumber (following (layout.line (level + 1)) (members.map write) ++
        (layout.line level ++ '\x7d' :: rest)) := endsNumber_following (blank.line level) rfl
    change objectRest value _ = _
    rw [objectRest_member (blank.line (level + 1)) begins (takes _ ends), List.reverse_cons]
    exact membersAfter_following (blank.line (level + 1)) (blank.line level) later [entry] rest

/-! ### Values -/

/-- A key and a value with a colon between them. -/
def memberText (layout : Layout) (level : Nat) (entry : String × Json) : List Char :=
  quoted entry.1 ++ ':' :: (layout.gap ++ write layout level entry.2)

theorem writeItems_eq (layout : Layout) (level : Nat) (items : List Json) :
    writeItems layout level items = items.map (write layout level) := by
  induction items with
  | nil => rfl
  | cons item items ih =>
    change write layout level item :: writeItems layout level items = _
    rw [ih, List.map_cons]

theorem writeMembers_eq (layout : Layout) (level : Nat) (members : List (String × Json)) :
    writeMembers layout level members = members.map (memberText layout level) := by
  induction members with
  | nil => rfl
  | cons entry members ih =>
    change memberText layout level entry :: writeMembers layout level members = _
    rw [ih, List.map_cons]

theorem takes_memberText {value : Reader Json} {entry : String × Json}
    (takes : Takes value (layout.gap ++ write layout level entry.2) entry.2) :
    Takes (memberReader value) (memberText layout level entry) entry := by
  intro rest ends
  have keyed := characters_quoted entry.1
    (':' :: (layout.gap ++ write layout level entry.2 ++ rest))
  have read := takes rest ends
  have run (text : List Char) : (memberReader value).run text = member value text := rfl
  rw [run, memberText, quoted]
  simp only [List.cons_append, List.append_assoc, List.nil_append] at keyed read ⊢
  have parted (text : List Char) : colon (':' :: text) = .ok text := rfl
  rw [member, if_pos rfl, keyed]
  simp only [bind, Except.bind, parted, read]

/-- What lists and objects are read with at so many levels. -/
def innerReader : Nat → Option (Reader Json)
  | 0 => none
  | depth + 1 => some (valueReader depth)

theorem valueReader_run (depth : Nat) (text : List Char) :
    (valueReader depth).run text = valueText (innerReader depth) text := by
  cases depth <;> rfl

theorem valueText_skipBlanks (inner : Option (Reader Json)) {first second : List Char}
    (same : skipBlanks first = skipBlanks second) :
    valueText inner first = valueText inner second := by
  rw [valueText, valueText, same]

theorem Takes.behind_blanks {depth : Nat} {written : List Char} {value : Json}
    (takes : Takes (valueReader depth) written value) (blank : ∀ c ∈ blanks, isBlank c = true) :
    Takes (valueReader depth) (blanks ++ written) value := by
  intro rest ends
  rw [← takes rest ends, valueReader_run, valueReader_run, List.append_assoc]
  exact valueText_skipBlanks _ (skipBlanks_append blank _)

theorem valueText_scalar (inner : Option (Reader Json)) {c : Char} (notBlank : isBlank c = false)
    (notList : c ≠ '[') (notObject : c ≠ '\x7b') (rest : List Char) :
    valueText inner (c :: rest) = scalar c rest := by
  rw [valueText, skipBlanks_cons notBlank]
  dsimp only
  rw [if_neg fun either => either.elim notList notObject]

/-- A character that a number begins with begins nothing else. -/
theorem begins_number {c : Char} (begins : c = '-' ∨ Text.isDigit c = true) :
    isBlank c = false ∧ c ≠ '[' ∧ c ≠ '\x7b' ∧ c ≠ ']' := by
  have other (d : Char) (notMinus : d ≠ '-') (notDigit : Text.isDigit d = false) : c ≠ d := by
    rintro rfl
    rcases begins with same | digit
    · exact notMinus same
    · cases notDigit.symm.trans digit
  refine ⟨?_, other _ (by decide) rfl, other _ (by decide) rfl, other _ (by decide) rfl⟩
  simp only [isBlank, Bool.or_eq_false_iff, decide_eq_false_iff_not]
  exact ⟨⟨⟨other _ (by decide) rfl, other _ (by decide) rfl⟩, other _ (by decide) rfl⟩,
    other _ (by decide) rfl⟩

theorem begins_write {depth : Nat} {value : Json} (legible : Legible depth value) (layout : Layout)
    (level : Nat) : Begins ']' (write layout level value) := by
  cases legible with
  | null => exact ⟨'n', _, rfl, rfl, by decide⟩
  | bool _ value =>
    cases value with
    | true => exact ⟨'t', _, rfl, rfl, by decide⟩
    | false => exact ⟨'f', _, rfl, rfl, by decide⟩
  | integer _ word =>
    obtain ⟨c, tail, written, number, _⟩ := scalar_integerText word .nil
    obtain ⟨notBlank, _, _, other⟩ := begins_number number
    exact ⟨c, tail, written, notBlank, other⟩
  | string _ text => exact ⟨'"', _, rfl, rfl, by decide⟩
  | @array _ items _ =>
    change Begins ']' (bracketed layout level '[' ']' _)
    unfold bracketed
    split <;> exact ⟨'[', _, rfl, rfl, by decide⟩
  | @object _ members _ _ =>
    change Begins ']' (bracketed layout level '\x7b' '\x7d' _)
    unfold bracketed
    split <;> exact ⟨'\x7b', _, rfl, rfl, by decide⟩

theorem scalar_quoted (text : String) (rest : List Char) :
    scalar '"' (text.toList.flatMap escaped ++ '"' :: rest) = .ok (.string text, rest) := by
  change stringValue _ = _
  rw [stringValue, characters_quoted]
  rfl

/-- The reader takes a written value from in front of any text that does not go on with a number. -/
theorem takes_write (blank : layout.Blank) {depth : Nat} {value : Json}
    (legible : Legible depth value) (level : Nat) :
    Takes (valueReader depth) (write layout level value) value := by
  induction legible generalizing level with
  | null depth =>
    intro rest _
    rw [valueReader_run]
    exact valueText_scalar _ rfl (by decide) (by decide) _
  | bool depth value =>
    intro rest _
    rw [valueReader_run]
    cases value <;> exact valueText_scalar _ rfl (by decide) (by decide) _
  | integer depth word =>
    intro rest ends
    obtain ⟨c, tail, written, number, read⟩ := scalar_integerText word ends
    obtain ⟨notBlank, notList, notObject, _⟩ := begins_number number
    change (valueReader depth).run (Number.integerText _ ++ rest) = _
    rw [valueReader_run, written, List.cons_append,
      valueText_scalar _ notBlank notList notObject, read]
  | string depth text =>
    intro rest _
    change (valueReader depth).run ('"' :: (text.toList.flatMap escaped ++ ['"'] ++ rest)) = _
    rw [valueReader_run, valueText_scalar _ rfl (by decide) (by decide), List.append_assoc]
    exact scalar_quoted text rest
  | @array depth items each ih =>
    intro rest _
    change (valueReader (depth + 1)).run
      (bracketed layout level '[' ']' (writeItems layout (level + 1) items) ++ rest) = _
    rw [valueReader_run, writeItems_eq]
    exact valueText_array blank (fun value member =>
      ⟨begins_write (each value member) layout (level + 1), ih value member (level + 1)⟩) rest
  | @object depth members distinct each ih =>
    intro rest _
    change (valueReader (depth + 1)).run
      (bracketed layout level '\x7b' '\x7d' (writeMembers layout (level + 1) members) ++ rest) = _
    rw [valueReader_run, writeMembers_eq]
    exact valueText_object blank distinct (fun entry member =>
      ⟨⟨'"', _, rfl, rfl, by decide⟩,
        takes_memberText ((ih entry member (level + 1)).behind_blanks blank.gap)⟩) rest

/-- A written value is read back, also with blanks behind it. -/
theorem readChars_write (blank : layout.Blank) {value : Json}
    (legible : Legible greatestDepth value) (level : Nat)
    (trailing : ∀ c ∈ blanks, isBlank c = true) :
    readChars (write layout level value ++ blanks) = .ok value := by
  have nothing : skipBlanks blanks = [] := by
    have alone := skipBlanks_append trailing []
    rwa [List.append_nil] at alone
  have ends : EndsNumber blanks := by
    have alone := endsNumber_blanks trailing EndsNumber.nil
    rwa [List.append_nil] at alone
  rw [readChars, takes_write blank legible level blanks ends]
  change finish value blanks = _
  rw [finish, nothing]

/-- A value on one line is read back. -/
theorem read_compact {value : Json} (legible : Legible greatestDepth value) :
    read value.compact = .ok value := by
  have back : readChars (write .compact 0 value ++ []) = .ok value :=
    readChars_write Layout.blank_compact legible 0 nofun
  rw [List.append_nil] at back
  rw [read, compact, String.toList_ofList, back]
  rfl

/-- A value on several lines is read back, with a line break behind it. -/
theorem read_indented {value : Json} (legible : Legible greatestDepth value) :
    read (value.indented ++ "\n") = .ok value := by
  have back : readChars (write .indented 0 value ++ ['\n']) = .ok value := by
    refine readChars_write Layout.blank_indented legible 0 fun c member => ?_
    rw [List.mem_singleton.mp member]
    rfl
  rw [read, indented, String.toList_append, String.toList_ofList,
    show "\n".toList = ['\n'] from rfl, back]
  rfl

end Json

end Blueprint
