import Blueprint.Proofs.Build.Stages
import Blueprint.Proofs.Schema.Bundled

/-!
Which typed documents satisfy the schema in their JSON form. The form has every member that the
schema requires and none that it does not know, so only what the types leave open remains: how far
a block is turned, and the name of the kind of its configuration.
-/

namespace Blueprint

/-- What the schema asks of a declaration beyond its type. -/
structure BlockDecl.Valid (block : BlockDecl) : Prop where
  quarters : ∀ rotation, block.rotation = some rotation → rotation ≤ 3
  kindKnown : ∀ config, block.config = some config →
    ∃ kind, ConfigKind.ofName? config.kind = some kind

namespace Rule

variable {named : String → Check} {known : List (String × Rule)}

/-! ### The rules against encoded values -/

theorem record_accepts_object {keys : List String} {members : List (String × Json)}
    (present : ∀ key ∈ keys, key ∈ members.map Prod.fst) :
    (record keys known).Accepts named (.object members) ↔ ∀ entry ∈ members, ∃ rule,
      known.lookup entry.1 = some rule ∧ rule.Accepts named entry.2 := by
  have found : ∀ key ∈ keys, (members.lookup key).isSome := by
    intro key required
    obtain ⟨entry, member, same⟩ := List.mem_map.mp (present key required)
    exact List.lookup_isSome_iff.mpr ⟨entry, member, beq_iff_eq.mpr same.symm⟩
  rw [record_accepts_iff]
  constructor
  · rintro ⟨_, same, _, accepted⟩
    cases same
    exact accepted
  · exact fun accepted => ⟨members, rfl, found, accepted⟩

theorem text_accepts_string (content : String) : text.Accepts named (.string content) :=
  text_accepts_iff.mpr ⟨content, rfl⟩

theorem texts_accepts_ofStrings (items : List String) : texts.Accepts named (.ofStrings items) := by
  refine listOf_accepts_iff.mpr ⟨_, rfl, fun element member => ?_⟩
  obtain ⟨content, _, rfl⟩ := List.mem_map.mp member
  exact text_accepts_string content

theorem not_text_accepts_ofStrings (items : List String) :
    ¬text.Accepts named (.ofStrings items) := by
  intro accepted
  obtain ⟨_, impossible⟩ := text_accepts_iff.mp accepted
  cases impossible

theorem not_texts_accepts_string (content : String) :
    ¬texts.Accepts named (.string content) := by
  intro accepted
  obtain ⟨_, impossible, _⟩ := listOf_accepts_iff.mp accepted
  cases impossible

theorem textOrTexts_accepts_string (content : String) :
    textOrTexts.Accepts named (.string content) := by
  rw [textOrTexts, accepts_every, List.forall_mem_singleton, accepts_oneOf_pair]
  simp only [text_accepts_string, not_texts_accepts_string, not_false_eq_true]

theorem textOrTexts_accepts_ofStrings (items : List String) :
    textOrTexts.Accepts named (.ofStrings items) := by
  rw [textOrTexts, accepts_every, List.forall_mem_singleton, accepts_oneOf_pair]
  simp only [texts_accepts_ofStrings, not_text_accepts_ofStrings, not_true_eq_false]

theorem mapOf_accepts_encode {V : Type} {rule : Rule} {encode : V → Json} {map : OrderedMap V} :
    (mapOf rule).Accepts named (map.encode encode) ↔
      ∀ entry ∈ map.entries, rule.Accepts named (encode entry.2) := by
  rw [mapOf_accepts_iff]
  constructor
  · rintro ⟨_, same, accepted⟩ entry member
    cases same
    exact accepted _ (List.mem_map_of_mem member)
  · intro accepted
    refine ⟨_, rfl, fun entry member => ?_⟩
    obtain ⟨original, listed, rfl⟩ := List.mem_map.mp member
    exact accepted original listed

/-- The names that the schema lists are those of the kinds. -/
theorem configNames_eq : Schema.configNames = ConfigKind.all.map ConfigKind.name := by
  rfl

theorem same_string_iff {value : Json} {content : String} :
    (Json.string content).same value = true ↔ value = .string content := by
  cases value with
  | string other =>
    change (content == other) = true ↔ _
    rw [beq_iff_eq, Json.string.injEq, eq_comm]
  | _ => simp [Json.same]

theorem configName_accepts_string {name : String} :
    configName.Accepts named (.string name) ↔ ∃ kind, ConfigKind.ofName? name = some kind := by
  rw [configName, accepts_every, List.forall_mem_cons, List.forall_mem_singleton, accepts_text,
    accepts_listed, configNames_eq]
  constructor
  · rintro ⟨_, option, listed, same⟩
    rw [same_string_iff.mp same] at listed
    obtain ⟨kind, member, named⟩ : ∃ kind ∈ ConfigKind.all, kind.name = name := by
      simpa using listed
    exact Option.isSome_iff_exists.mp (List.find?_isSome.mpr ⟨kind, member, by simpa using named⟩)
  · rintro ⟨kind, found⟩
    have named : kind.name = name := by simpa using List.find?_some found
    have member := List.mem_of_find?_eq_some found
    refine ⟨⟨name, rfl⟩, .string name, ?_, same_string_iff.mpr rfl⟩
    simpa using ⟨kind, member, named⟩

theorem configRule_accepts_encode {config : ConfigDecl} :
    configRule.Accepts named config.encode ↔
      ∃ kind, ConfigKind.ofName? config.kind = some kind := by
  rw [configRule, ConfigDecl.encode, record_accepts_object (by simp)]
  simp only [List.forall_mem_cons, List.not_mem_nil, false_implies, implies_true, and_true,
    List.lookup_cons, BEq.rfl, String.reduceBEq, Option.some.injEq, exists_eq_left',
    text_accepts_string, configName_accepts_string]

theorem rotationRule_accepts_ofNat {n : Nat} :
    rotationRule.Accepts named (.ofNat n) ↔ n ≤ 3 := by
  rw [rotationRule, accepts_every, List.forall_mem_cons, List.forall_mem_cons,
    List.forall_mem_singleton, Json.ofNat, accepts_atLeast, accepts_atMost, accepts_kinds]
  constructor
  · rintro ⟨_, _, small⟩
    omega
  · intro small
    exact ⟨⟨.integer, List.mem_cons_self, rfl⟩, by omega, by omega⟩

theorem blockRule_accepts_encode {block : BlockDecl} :
    blockRule.Accepts named block.encode ↔ block.Valid := by
  rw [blockRule, BlockDecl.encode, record_accepts_object (by simp)]
  simp only [List.forall_mem_append, List.forall_mem_singleton, Json.forall_mem_present,
    List.lookup_cons, BEq.rfl, String.reduceBEq, Option.some.injEq, exists_eq_left',
    text_accepts_string, texts_accepts_ofStrings, implies_true, true_and,
    configRule_accepts_encode, rotationRule_accepts_ofNat]
  constructor
  · rintro ⟨kindKnown, quarters⟩
    exact ⟨quarters, kindKnown⟩
  · intro valid
    exact ⟨valid.kindKnown, valid.quarters⟩

theorem infoRule_accepts_encode (info : Info) : infoRule.Accepts named info.encode := by
  rw [infoRule, Info.encode, record_accepts_object (by simp)]
  simp only [List.forall_mem_append, List.forall_mem_singleton, List.forall_mem_cons,
    Json.forall_mem_present, List.lookup_cons, BEq.rfl, String.reduceBEq, Option.some.injEq,
    exists_eq_left', text_accepts_string, texts_accepts_ofStrings, mapOf_accepts_encode,
    implies_true, and_self]

theorem textOrTexts_accepts_constant (constant : Constant) :
    textOrTexts.Accepts named constant.encode := by
  cases constant with
  | text value => exact textOrTexts_accepts_string value
  | list items => exact textOrTexts_accepts_ofStrings items

theorem textOrTexts_accepts_program (program : Program) :
    textOrTexts.Accepts named program.encode := by
  cases program with
  | lines code => exact textOrTexts_accepts_ofStrings code
  | path relative => exact textOrTexts_accepts_string relative

theorem grid_accepts_encode (grid : List (List String)) :
    (listOf texts).Accepts named (.array (grid.map Json.ofStrings)) := by
  refine listOf_accepts_iff.mpr ⟨_, rfl, fun element member => ?_⟩
  obtain ⟨row, _, rfl⟩ := List.mem_map.mp member
  exact texts_accepts_ofStrings row

theorem tilesRule_accepts_encode {more : Nat} {tiles : Tiles} :
    tilesRule.Accepts (Schema.bundled.follow (more + 1)) tiles.encode ↔
      ∀ entry ∈ tiles.blocks.entries, entry.2.Valid := by
  rw [tilesRule, Tiles.encode, record_accepts_object (by simp)]
  simp only [List.forall_mem_cons, List.not_mem_nil, false_implies, List.lookup_cons, BEq.rfl,
    String.reduceBEq, Option.some.injEq, exists_eq_left', grid_accepts_encode,
    mapOf_accepts_encode, Schema.blockName_accepts_iff, blockRule_accepts_encode,
    textOrTexts_accepts_program, implies_true, and_true, true_and]

theorem documentRule_accepts_encode {more : Nat} {document : Document} :
    documentRule.Accepts (Schema.bundled.follow (more + 1)) document.encode ↔
      ∀ entry ∈ document.tiles.blocks.entries, entry.2.Valid := by
  rw [documentRule, Document.encode, record_accepts_object (by simp)]
  simp only [List.forall_mem_cons, List.not_mem_nil, false_implies, List.lookup_cons, BEq.rfl,
    String.reduceBEq, Option.some.injEq, exists_eq_left', infoRule_accepts_encode,
    tilesRule_accepts_encode, mapOf_accepts_encode, textOrTexts_accepts_constant, implies_true,
    and_true, true_and]

end Rule

/-- The JSON form of a document satisfies the schema of documents exactly if no block is turned by
more than three quarters and every declared configuration is of a known kind. -/
theorem check_encode_iff (document : Document) :
    Build.validate .standard Schema.bundledJson document.encode = .ok () ↔
      ∀ name block, (name, block) ∈ document.tiles.blocks.entries → block.Valid := by
  have valid : Build.validate .standard Schema.bundledJson document.encode = .ok () ↔
      Schema.bundled.violation? document.encode = none :=
    Build.validate_bundled_ok_iff Settings.standard_checksBundled
  rw [valid, Schema.bundled_accepts_iff, Rule.documentRule_accepts_encode]
  constructor
  · intro each name block member
    exact each (name, block) member
  · intro each entry member
    exact each entry.1 entry.2 member

end Blueprint
