import Blueprint.Document.ReadMap
import Blueprint.Proofs.Document.RoundTrip
import Blueprint.Proofs.OrderedMap.Entries

/-!
Maps that are read from text. A map that is read with its members inserted as they come has the
entries of the JSON value that the text denotes, in the same order, and what is written of a map is
read back as that map.
-/

namespace Blueprint

namespace Json

variable {text rest : List Char}

/-! ### Ends of texts, and values that are no objects -/

theorem finish_ok_iff {α : Type} {first second : α} :
    finish first rest = .ok second ↔ skipBlanks rest = [] ∧ second = first := by
  rw [finish]
  cases skipBlanks rest <;> simp [eq_comm]

theorem literal_ok {item read : Json} {letters : List Char}
    (success : literal item letters text = .ok (read, rest)) : read = item := by
  induction letters generalizing text with
  | nil =>
    cases success
    rfl
  | cons letter letters ih =>
    cases text with
    | nil => cases success
    | cons c tail =>
      rw [literal] at success
      split at success
      · exact ih success
      · cases success

theorem scalar_ne_object {c : Char} {entries : List (String × Json)} :
    scalar c text ≠ .ok (.object entries, rest) := by
  intro success
  unfold scalar at success
  split at success
  · cases literal_ok success
  split at success
  · cases literal_ok success
  split at success
  · cases literal_ok success
  split at success
  · obtain ⟨_, _, success⟩ := Text.bind_success success
    cases success
  split at success
  · obtain ⟨_, _, success⟩ := Text.bind_success success
    cases success
  split at success
  · obtain ⟨_, _, success⟩ := Text.bind_success success
    cases success
  · cases success

theorem itemsAfter_ne_object {reader : Reader Json} {done : List Json}
    {entries : List (String × Json)} :
    itemsAfter reader done text ≠ .ok (.object entries, rest) := by
  intro success
  fun_induction itemsAfter reader done text with
  | case1 => cases success
  | case2 => cases success
  | case3 => cases success
  | case4 => cases success
  | case5 _ _ _ _ _ _ _ _ _ _ ih => exact ih success
  | case6 => cases success

theorem listRest_ne_object {reader : Reader Json} {entries : List (String × Json)} :
    listRest reader text ≠ .ok (.object entries, rest) := by
  intro success
  unfold listRest at success
  split at success
  · cases success
  · split at success
    · cases success
    · obtain ⟨_, _, success⟩ := Text.bind_success success
      exact itemsAfter_ne_object success

end Json

namespace OrderedMap

open Traversal (mapError_ok_iff bind_ok_iff)

variable {V : Type} {value : ValueReader V} {isFirst : Bool} {text behind after rest : List Char}
  {map result : OrderedMap V} {members : List (String × V)} {key : String}

/-! ### Keys -/

theorem keyText_ne_none : keyText text ≠ .ok (none, rest) := by
  intro success
  cases text with
  | nil => cases success
  | cons c tail =>
    rw [keyText] at success
    split at success
    · obtain ⟨_, _, success⟩ := Text.bind_success success
      obtain ⟨_, _, success⟩ := Text.bind_success success
      cases success
    · cases success

theorem nextKey_none_iff :
    nextKey isFirst text = .ok (none, rest) ↔ Json.skipBlanks text = '\x7d' :: rest := by
  constructor
  · intro success
    unfold nextKey at success
    split at success
    · cases success
    · next c tail shape =>
      split at success
      · next close =>
        cases success
        rw [shape, close]
      · -- Any other character is in front of a key, or of nothing that can be read.
        split at success
        · exact absurd success keyText_ne_none
        · split at success
          · split at success
            · cases success
            · exact absurd success keyText_ne_none
          · cases success
  · intro shape
    rw [nextKey, shape]
    rfl

theorem nextKey_first_iff : nextKey true text = .ok (some key, behind) ↔
    (Json.skipBlanks text).head? ≠ some '\x7d' ∧
      keyText (Json.skipBlanks text) = .ok (some key, behind) := by
  rw [nextKey]
  cases Json.skipBlanks text with
  | nil => simp [keyText]
  | cons c tail =>
    by_cases close : c = '\x7d' <;> simp [close]

theorem nextKey_later_iff : nextKey false text = .ok (some key, behind) ↔
    ∃ tail, Json.skipBlanks text = ',' :: tail ∧ (Json.skipBlanks tail).head? ≠ some '\x7d' ∧
      keyText (Json.skipBlanks tail) = .ok (some key, behind) := by
  rw [nextKey]
  cases Json.skipBlanks text with
  | nil => simp
  | cons c tail =>
    by_cases comma : c = ','
    · subst comma
      by_cases close : (Json.skipBlanks tail).head? = some '\x7d' <;> simp [close]
    · by_cases close : c = '\x7d' <;> simp [close, comma]

/-! ### Members -/

/-- The members that an object has from a place in it on, and what is behind its closing brace. -/
inductive Members (value : ValueReader V) :
    Bool → List Char → List (String × V) → List Char → Prop where
  | close {isFirst : Bool} {text rest : List Char}
    (closed : nextKey isFirst text = .ok (none, rest)) : Members value isFirst text [] rest
  | member {isFirst : Bool} {text behind after rest : List Char} {key : String} {item : V}
    {members : List (String × V)} (keyed : nextKey isFirst text = .ok (some key, behind))
    (read : value.run behind = .ok (item, after)) (more : Members value false after members rest) :
    Members value isFirst text ((key, item) :: members) rest

theorem collect_close (closed : nextKey isFirst text = .ok (none, rest)) :
    collect value isFirst map text = .ok (map, rest) := by
  have run : (keyReader isFirst).run text = .ok (none, rest) := closed
  rw [collect]
  simp only [Text.Reader.step_ok run]

theorem collect_member {item : V} (keyed : nextKey isFirst text = .ok (some key, behind))
    (read : value.run behind = .ok (item, after)) :
    collect value isFirst map text = collect value false (map.insert key item) after := by
  have run : (keyReader isFirst).run text = .ok (some key, behind) := keyed
  rw [collect]
  simp only [Text.Reader.step_ok run, Text.Reader.step_ok read]

theorem collect_ok_iff : collect value isFirst map text = .ok (result, rest) ↔
    ∃ members, Members value isFirst text members rest ∧ result = map.insertAll members := by
  constructor
  · intro success
    fun_induction collect value isFirst map text with
    | case1 => cases success
    | case2 isFirst map text left _ step =>
      cases success
      exact ⟨[], .close (Text.Reader.run_of_step step), rfl⟩
    | case3 => cases success
    | case4 isFirst map text key behind _ step item after _ read ih =>
      obtain ⟨members, more, rfl⟩ := ih success
      exact ⟨(key, item) :: members,
        .member (Text.Reader.run_of_step step) (Text.Reader.run_of_step read) more, rfl⟩
  · rintro ⟨members, written, rfl⟩
    induction written generalizing map with
    | close closed => exact collect_close closed
    | member keyed read _ ih =>
      rw [collect_member keyed read]
      exact ih

/-- The text is one object with these members, and blanks around it. -/
def Written (value : ValueReader V) (text : List Char) (members : List (String × V)) : Prop :=
  ∃ behind rest, Json.skipBlanks text = '\x7b' :: behind ∧ Members value true behind members rest ∧
    Json.skipBlanks rest = []

theorem readChars_ok_iff : readChars value text = .ok map ↔
    ∃ members, Written value text members ∧ map = ofList members := by
  rw [readChars, bind_ok_iff]
  constructor
  · rintro ⟨⟨read, rest⟩, success, finished⟩
    obtain ⟨nothing, rfl⟩ := Json.finish_ok_iff.mp (mapError_ok_iff.mp finished)
    unfold mapText at success
    split at success
    · cases success
    · next c behind shape =>
      split at success
      · next brace =>
        obtain ⟨members, written, rfl⟩ := collect_ok_iff.mp success
        exact ⟨members, ⟨behind, rest, by rw [shape, brace], written, nothing⟩, rfl⟩
      · cases success
  · rintro ⟨members, ⟨behind, rest, shape, written, nothing⟩, rfl⟩
    refine ⟨(ofList members, rest), ?_, mapError_ok_iff.mpr (Json.finish_ok_iff.mpr ⟨nothing, rfl⟩)⟩
    rw [mapText, shape]
    exact collect_ok_iff.mpr ⟨members, written, rfl⟩

/-! ### Objects among the JSON values -/

theorem member_ok_iff {reader : Json.Reader Json} {item : Json} :
    Json.member reader text = .ok ((key, item), rest) ↔
      ∃ behind, keyText text = .ok (some key, behind) ∧ reader.run behind = .ok (item, rest) := by
  cases text with
  | nil => simp [Json.member, keyText]
  | cons c tail =>
    rw [Json.member, keyText]
    by_cases quote : c = '"'
    · rw [if_pos quote, if_pos quote]
      cases Json.characters [] tail with
      | error fault => simp [bind, Except.bind]
      | ok named =>
        cases parted : Json.colon named.2 with
        | error fault => simp [bind, Except.bind, parted]
        | ok left =>
          cases read : reader.run left with
          | error fault => simp [bind, Except.bind, parted, read]
          | ok value => simp [bind, Except.bind, parted, read, Prod.ext_iff, and_assoc]
    · rw [if_neg quote, if_neg quote]
      simp

theorem anyValue_ok_iff {depth : Nat} {item : Json} :
    (anyValue depth).run text = .ok (item, rest) ↔
      (Json.valueReader depth).run text = .ok (item, rest) := mapError_ok_iff

theorem membersAfter_ok_iff {depth : Nat} {done : List (String × Json)} {object : Json} :
    Json.membersAfter (Json.valueReader depth) done text = .ok (object, rest) ↔
      ∃ members, Members (anyValue depth) false text members rest ∧
        object = Json.ofMembers (members.reverse ++ done) := by
  constructor
  · intro success
    fun_induction Json.membersAfter (Json.valueReader depth) done text with
    | case1 => cases success
    | case2 done text tail shape =>
      cases success
      exact ⟨[], .close (nextKey_none_iff.mpr shape), rfl⟩
    | case3 => cases success
    | case4 => cases success
    | case5 done text tail more entry after _ step shape _ ih =>
      obtain ⟨members, written, rfl⟩ := ih success
      obtain ⟨behind, keyed, read⟩ := member_ok_iff.mp (Text.Reader.run_of_step step)
      have next : nextKey false text = .ok (some entry.1, behind) :=
        nextKey_later_iff.mpr ⟨tail, shape, more, keyed⟩
      refine ⟨entry :: members, .member next (anyValue_ok_iff.mpr read) written, ?_⟩
      rw [List.reverse_cons, List.append_assoc, List.singleton_append]
    | case6 => cases success
  · rintro ⟨members, written, rfl⟩
    -- Every place behind a member is again one behind a member.
    generalize later : false = isFirst at written
    induction written generalizing done with
    | close closed => exact Json.membersAfter_close (nextKey_none_iff.mp closed)
    | member keyed read _ ih =>
      subst later
      obtain ⟨tail, shape, more, keyed⟩ := nextKey_later_iff.mp keyed
      have entry := member_ok_iff.mpr ⟨_, keyed, anyValue_ok_iff.mp read⟩
      rw [Json.membersAfter_member shape more entry, ih rfl, List.reverse_cons, List.append_assoc,
        List.singleton_append]

theorem objectRest_ok_iff {depth : Nat} {object : Json} :
    Json.objectRest (Json.valueReader depth) text = .ok (object, rest) ↔
      ∃ members, Members (anyValue depth) true text members rest ∧
        object = .object (ofList members).entries := by
  constructor
  · intro success
    unfold Json.objectRest at success
    split at success
    · cases success
    · next c tail shape =>
      split at success
      · next close =>
        cases success
        exact ⟨[], .close (nextKey_none_iff.mpr (by rw [shape, close])), rfl⟩
      · next other =>
        obtain ⟨⟨⟨key, item⟩, after⟩, first, success⟩ := Text.bind_success success
        obtain ⟨behind, keyed, read⟩ := member_ok_iff.mp first
        obtain ⟨members, written, rfl⟩ := membersAfter_ok_iff.mp success
        have next : nextKey true text = .ok (some key, behind) :=
          nextKey_first_iff.mpr ⟨by simpa [shape] using other, by rw [shape]; exact keyed⟩
        refine ⟨(key, item) :: members, .member next (anyValue_ok_iff.mpr read) written, ?_⟩
        rw [Json.ofMembers]
        simp
  · rintro ⟨members, written, rfl⟩
    cases written with
    | close closed =>
      rw [Json.objectRest, nextKey_none_iff.mp closed]
      rfl
    | member keyed read more =>
      obtain ⟨other, keyed⟩ := nextKey_first_iff.mp keyed
      have first := member_ok_iff.mpr ⟨_, keyed, anyValue_ok_iff.mp read⟩
      rw [Json.objectRest_first other first, membersAfter_ok_iff]
      refine ⟨_, more, ?_⟩
      rw [Json.ofMembers]
      simp

theorem valueReader_object_iff {depth : Nat} {entries : List (String × Json)} :
    (Json.valueReader (depth + 1)).run text = .ok (.object entries, rest) ↔
      ∃ behind members, Json.skipBlanks text = '\x7b' :: behind ∧
        Members (anyValue depth) true behind members rest ∧ entries = (ofList members).entries := by
  have run : (Json.valueReader (depth + 1)).run text =
      Json.valueText (some (Json.valueReader depth)) text := rfl
  rw [run]
  constructor
  · intro success
    unfold Json.valueText at success
    split at success
    · cases success
    · next c behind shape =>
      split at success
      · next opens =>
        dsimp only at success
        split at success
        · exact absurd success Json.listRest_ne_object
        · next notList =>
          obtain ⟨members, written, same⟩ := objectRest_ok_iff.mp success
          cases same
          exact ⟨behind, members, by rw [shape, opens.resolve_left notList], written, rfl⟩
      · exact absurd success Json.scalar_ne_object
  · rintro ⟨behind, members, shape, written, rfl⟩
    rw [Json.valueText, shape]
    exact objectRest_ok_iff.mpr ⟨members, written, rfl⟩

theorem readChars_object_iff {entries : List (String × Json)} :
    Json.readChars text = .ok (.object entries) ↔
      ∃ members, Written (anyValue (Json.greatestDepth - 1)) text members ∧
        entries = (ofList members).entries := by
  rw [Json.readChars, bind_ok_iff]
  constructor
  · rintro ⟨⟨read, rest⟩, success, finished⟩
    obtain ⟨nothing, rfl⟩ := Json.finish_ok_iff.mp finished
    obtain ⟨behind, members, shape, written, rfl⟩ := valueReader_object_iff.mp success
    exact ⟨members, ⟨behind, rest, shape, written, nothing⟩, rfl⟩
  · rintro ⟨members, ⟨behind, rest, shape, written, nothing⟩, rfl⟩
    exact ⟨(_, rest), valueReader_object_iff.mpr ⟨behind, members, shape, written, rfl⟩,
      Json.finish_ok_iff.mpr ⟨nothing, rfl⟩⟩

/-! ### Reading what is written -/

section Layouts

variable {layout : Json.Layout} {level : Nat} {encode : V → Json}

/-- The reader takes the written form of any item from behind the gap after a colon, if what
follows does not go on with a number. -/
def TakesWritten (value : ValueReader V) (layout : Json.Layout) (level : Nat) (encode : V → Json) :
    Prop :=
  ∀ item rest, Json.EndsNumber rest →
    value.run (layout.gap ++ (Json.write layout level (encode item) ++ rest)) = .ok (item, rest)

/-- An entry as it is written in an object. -/
def entryText (layout : Json.Layout) (level : Nat) (encode : V → Json) (entry : String × V) :
    List Char :=
  Json.memberText layout level (entry.1, encode entry.2)

theorem begins_entryText (layout : Json.Layout) (level : Nat) (encode : V → Json)
    (entry : String × V) : Json.Begins '\x7d' (entryText layout level encode entry) :=
  ⟨'"', _, rfl, rfl, by decide⟩

theorem keyText_entryText (entry : String × V) (rest : List Char) :
    keyText (entryText layout level encode entry ++ rest) =
      .ok (some entry.1, layout.gap ++ (Json.write layout level (encode entry.2) ++ rest)) := by
  have written : entryText layout level encode entry ++ rest =
      '"' :: (entry.1.toList.flatMap Json.escaped ++
        '"' :: ':' :: (layout.gap ++ (Json.write layout level (encode entry.2) ++ rest))) := by
    simp [entryText, Json.memberText, Json.quoted]
  rw [written, keyText, if_pos rfl, Json.characters_quoted]
  rfl

theorem members_following {line close : List Char} (takes : TakesWritten value layout level encode)
    (lineBlank : ∀ c ∈ line, Json.isBlank c = true)
    (closeBlank : ∀ c ∈ close, Json.isBlank c = true) (members : List (String × V))
    (rest : List Char) :
    Members value false (Json.following line (members.map (entryText layout level encode)) ++
      (close ++ '\x7d' :: rest)) members rest := by
  induction members with
  | nil => exact .close (nextKey_none_iff.mpr (Json.skipBlanks_before closeBlank rfl rest))
  | cons entry members ih =>
    have begins := begins_entryText layout level encode entry
    rw [List.map_cons, Json.following_cons]
    refine .member (nextKey_later_iff.mpr ⟨_, Json.skipBlanks_cons rfl _, ?_, ?_⟩)
      (takes entry.2 _ (Json.endsNumber_following closeBlank rfl)) ih
    · rw [begins.skipBlanks lineBlank]
      exact begins.head?_ne _
    · rw [begins.skipBlanks lineBlank]
      exact keyText_entryText entry _

theorem written_encode (blank : layout.Blank)
    (takes : TakesWritten value layout (level + 1) encode) (map : OrderedMap V) :
    Written value (Json.write layout level (map.encode encode)) map.entries := by
  have texts : Json.write layout level (map.encode encode) =
      Json.bracketed layout level '\x7b' '\x7d'
        (map.entries.map (entryText layout (level + 1) encode)) := by
    change Json.bracketed layout level '\x7b' '\x7d' (Json.writeMembers layout (level + 1) _) = _
    rw [Json.writeMembers_eq, List.map_map]
    rfl
  rw [texts]
  cases map.entries with
  | nil => exact ⟨['\x7d'], [], rfl, .close (nextKey_none_iff.mpr rfl), rfl⟩
  | cons entry entries =>
    have begins := begins_entryText layout (level + 1) encode entry
    have whole := Json.bracketed_cons layout level '\x7b' '\x7d'
      (entryText layout (level + 1) encode entry)
      (entries.map (entryText layout (level + 1) encode)) []
    rw [List.append_nil] at whole
    rw [List.map_cons, whole]
    refine ⟨_, [], Json.skipBlanks_cons rfl _, ?_, rfl⟩
    refine .member (nextKey_first_iff.mpr ⟨?_, ?_⟩)
      (takes entry.2 _ (Json.endsNumber_following (blank.line level) rfl))
      (members_following takes (blank.line (level + 1)) (blank.line level) entries [])
    · rw [begins.skipBlanks (blank.line (level + 1))]
      exact begins.head?_ne _
    · rw [begins.skipBlanks (blank.line (level + 1))]
      exact keyText_entryText entry _

theorem readWith_encode (blank : layout.Blank)
    (takes : TakesWritten value layout (level + 1) encode) (map : OrderedMap V) :
    readWith value (.ofList (Json.write layout level (map.encode encode))) = .ok map := by
  rw [readWith, mapError_ok_iff, String.toList_ofList, readChars_ok_iff]
  exact ⟨map.entries, written_encode blank takes map, (ofList_of_nodup map.distinct).symm⟩

theorem stringValue_takes (blank : layout.Blank) :
    TakesWritten stringValue layout level Json.string := by
  intro text rest _
  have written : Json.write layout level (.string text) ++ rest =
      '"' :: (text.toList.flatMap Json.escaped ++ '"' :: rest) := by
    change Json.quoted text ++ rest = _
    simp [Json.quoted]
  change stringText _ = _
  rw [stringText, written, Json.skipBlanks_before blank.gap rfl]
  dsimp only
  rw [if_pos rfl, Json.characters_quoted]
  rfl

end Layouts

/-! ### Both ways of reading -/

theorem read_ok_iff {text : String} {map : OrderedMap Json} : read text = .ok map ↔
    ∃ members, Written (anyValue (Json.greatestDepth - 1)) text.toList members ∧
      map = ofList members := by
  rw [read, readWith, mapError_ok_iff, readChars_ok_iff]

theorem json_read_object_iff {text : String} {entries : List (String × Json)} :
    Json.read text = .ok (.object entries) ↔
      ∃ map, read text = .ok map ∧ entries = map.entries := by
  rw [Json.read, mapError_ok_iff, readChars_object_iff]
  simp only [read_ok_iff]
  constructor
  · rintro ⟨members, written, rfl⟩
    exact ⟨_, ⟨members, written, rfl⟩, rfl⟩
  · rintro ⟨_, ⟨members, written, rfl⟩, rfl⟩
    exact ⟨members, written, rfl⟩

theorem decode_map_ok_iff {value : Json} {map : OrderedMap Json} :
    Decode.map Except.ok value = .ok map ↔
      ∃ entries, value = .object entries ∧ map = ofList entries := by
  have same (entries : List (String × Json)) :
      entries.mapM (Decode.member Except.ok) = .ok entries := by
    rw [Traversal.mapM_ok_iff, List.forall₂_same]
    exact fun _ _ => rfl
  constructor
  · intro success
    cases value with
    | object entries =>
      rw [Decode.map, same] at success
      cases success
      exact ⟨entries, rfl, rfl⟩
    | _ => cases success
  · rintro ⟨entries, rfl, rfl⟩
    rw [Decode.map, same]
    rfl

theorem read_iff_decode {text : String} {map : OrderedMap Json} : read text = .ok map ↔
    ∃ value, Json.read text = .ok value ∧ Decode.map Except.ok value = .ok map := by
  constructor
  · intro success
    refine ⟨.object map.entries, json_read_object_iff.mpr ⟨map, success, rfl⟩, ?_⟩
    exact decode_map_ok_iff.mpr ⟨map.entries, rfl, (ofList_of_nodup map.distinct).symm⟩
  · rintro ⟨value, read, decoded⟩
    obtain ⟨entries, rfl, rfl⟩ := decode_map_ok_iff.mp decoded
    obtain ⟨map, direct, rfl⟩ := json_read_object_iff.mp read
    rwa [ofList_of_nodup map.distinct]

/-- A map has the keys that were inserted, each once and in the order in which they first were,
with their last values, and every insertion tells the value before it. So has the map that is read
from an object, whose members may repeat keys; it is the one that the JSON value of the text is
converted to, with the same entries. A map of texts is read back from its written form on one line
or several, directly and by way of the JSON value. -/
theorem maps_keep_order (inserted : List (String × V)) (text : String) (texts : OrderedMap String) :
    (ofList inserted).keys.Nodup ∧ Tabulates Inserts inserted (ofList inserted) ∧
    (∀ key value, (ofList inserted).getThenInsert key value =
      ((ofList inserted).get? key, ofList (inserted ++ [(key, value)]))) ∧
    (∀ map, read text = .ok map ↔ ∃ members,
      Written (anyValue (Json.greatestDepth - 1)) text.toList members ∧
        Tabulates Inserts members map) ∧
    (∀ map, read text = .ok map ↔
      ∃ value, Json.read text = .ok value ∧ Decode.map Except.ok value = .ok map) ∧
    (∀ entries, Json.read text = .ok (.object entries) ↔
      ∃ map, read text = .ok map ∧ entries = map.entries) ∧
    readStrings (texts.encode .string).compact = .ok texts ∧
    readStrings (texts.encode .string).indented = .ok texts ∧
    Json.read (texts.encode .string).compact = .ok (texts.encode .string) ∧
    Decode.map Decode.text (texts.encode .string) = .ok texts := by
  have legible : Json.Legible Json.greatestDepth (texts.encode .string) :=
    Json.legible_map texts (Json.Legible.string 126)
  refine ⟨(ofList inserted).distinct, tabulates_inserts_iff.mpr rfl, ?_, ?_,
    fun _ => read_iff_decode, fun _ => json_read_object_iff,
    readWith_encode Json.Layout.blank_compact (stringValue_takes Json.Layout.blank_compact) texts,
    readWith_encode Json.Layout.blank_indented (stringValue_takes Json.Layout.blank_indented) texts,
    Json.read_compact legible, (Decode.recovers_text.map).back texts⟩
  · intro key value
    rw [getThenInsert_eq, ofList, ofList, insertAll, insertAll, List.foldl_concat]
  · intro map
    simp only [read_ok_iff, tabulates_inserts_iff]

end OrderedMap

end Blueprint
