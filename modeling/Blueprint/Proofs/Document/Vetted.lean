import Blueprint.Proofs.Document.Validity

/-!
What the typed form of a value owes to the schema. The readers take more than the rules allow, so
what holds of a document that was checked first is found by reading both side by side: what a rule
accepts and a reader returns has a property, and the property of a record follows from those of its
members.
-/

namespace Blueprint

open Traversal

/-- What is read from a value that a rule accepts has a property. -/
def Ensures (named : String → Check) (rule : Rule) (decode : Decode α) (property : α → Prop) :
    Prop :=
  ∀ value result, rule.Accepts named value → decode value = .ok result → property result

namespace Ensures

variable {named : String → Check} {rule : Rule} {decode : Decode α} {property : α → Prop}

theorem optional (ensures : Ensures named rule decode property) :
    Ensures named rule (Decode.optional decode) fun result =>
      ∀ content, result = some content → property content := by
  intro value result accepted success content present
  cases value with
  | null =>
    cases success
    cases present
  | _ =>
    obtain ⟨_, decoded, same⟩ := bind_ok_iff.mp success
    cases same
    cases present
    exact ensures _ _ accepted decoded

theorem map (ensures : Ensures named rule decode property) :
    Ensures named (.mapOf rule) (Decode.map decode) fun result =>
      ∀ entry ∈ result.entries, property entry.2 := by
  intro value result accepted success entry listed
  obtain ⟨entries, rfl, each⟩ := Rule.mapOf_accepts_iff.mp accepted
  obtain ⟨read, traversed, same⟩ := bind_ok_iff.mp success
  cases same
  have member := OrderedMap.mem_of_mem_ofList listed
  obtain ⟨original, inside, success⟩ := exists_left_of_mem (mapM_ok_iff.mp traversed) member
  obtain ⟨_, decoded, same⟩ := bind_ok_iff.mp success
  cases same
  exact ensures _ _ (each original inside) decoded

end Ensures

/-- Every member of an object satisfies the rule that is known for its key. -/
def Rule.Governs (named : String → Check) (known : List (String × Rule))
    (members : List (String × Json)) : Prop :=
  ∀ entry ∈ members, ∃ rule, known.lookup entry.1 = some rule ∧ rule.Accepts named entry.2

namespace Rule

variable {named : String → Check} {known : List (String × Rule)} {members : List (String × Json)}
  {rule : Rule} {decode : Decode α} {property : α → Prop} {name : String}

/-- A record that its rule accepts is read by name. -/
theorem fields_of_accepts {record : String} {keys : List String}
    {checks : List (String × Decode Unit)} {value : Json} {fields : Fields}
    (accepted : (Rule.record keys known).Accepts named value)
    (opened : Fields.of record checks value = .ok fields) :
    ∃ members, fields = .named members ∧ Governs named known members := by
  obtain ⟨members, rfl, _, governed⟩ := record_accepts_iff.mp accepted
  obtain ⟨_, _, same⟩ := bind_ok_iff.mp opened
  cases same
  exact ⟨members, rfl, governed⟩

theorem Governs.accepts (governed : Governs named known members)
    (listed : known.lookup name = some rule) {value : Json}
    (found : members.lookup name = some value) : rule.Accepts named value := by
  obtain ⟨other, same, accepted⟩ := governed _ (OrderedMap.mem_of_lookup found)
  cases listed.symm.trans same
  exact accepted

theorem Governs.required (governed : Governs named known members)
    (listed : known.lookup name = some rule) (ensures : Ensures named rule decode property)
    {position : Nat} {result : α}
    (success : (Fields.named members).required position name decode = .ok result) :
    property result := by
  have same : (Fields.named members).find? position name = members.lookup name := rfl
  rw [Fields.required, same] at success
  cases found : members.lookup name with
  | none =>
    rw [found] at success
    cases success
  | some value =>
    rw [found] at success
    exact ensures _ _ (governed.accepts listed found) success

theorem Governs.withDefault (governed : Governs named known members)
    (listed : known.lookup name = some rule) (ensures : Ensures named rule decode property)
    {position : Nat} {default result : α} (usual : property default)
    (success : (Fields.named members).withDefault position name default decode = .ok result) :
    property result := by
  have same : (Fields.named members).find? position name = members.lookup name := rfl
  rw [Fields.withDefault, same] at success
  cases found : members.lookup name with
  | none =>
    rw [found] at success
    cases success
    exact usual
  | some value =>
    rw [found] at success
    exact ensures _ _ (governed.accepts listed found) success

end Rule

namespace Ensures

variable {named : String → Check}

theorem byte : Ensures named .rotationRule Decode.byte (· ≤ 3) := by
  intro value result accepted success
  rcases Rule.number_of_accepts_rotation accepted with ⟨n, rfl, low, high⟩ | ⟨x, rfl⟩
  · have small : 0 ≤ n ∧ n < 256 := ⟨low, by omega⟩
    rw [Decode.byte, if_pos small] at success
    cases success
    have bound : n.toNat ≤ 3 := by omega
    exact UInt8.le_iff_toNat_le.mpr (by simpa using Nat.le_trans (Nat.mod_le _ _) bound)
  · cases success

theorem kindName : Ensures named .configName Decode.text fun name =>
    ∃ kind, ConfigKind.ofName? name = some kind := by
  intro value result accepted success
  obtain ⟨content, rfl⟩ := Rule.text_accepts_iff.mp (Rule.text_of_accepts_configName accepted)
  cases success
  exact Rule.configName_accepts_string.mp accepted

theorem config : Ensures named .configRule ConfigDecl.decode fun config =>
    ∃ kind, ConfigKind.ofName? config.kind = some kind := by
  intro value result accepted success
  obtain ⟨_, opened, success⟩ := bind_ok_iff.mp success
  obtain ⟨members, rfl, governed⟩ := Rule.fields_of_accepts accepted opened
  obtain ⟨kind, read, success⟩ := bind_ok_iff.mp success
  obtain ⟨_, _, success⟩ := bind_ok_iff.mp success
  cases success
  exact governed.required rfl kindName read

theorem block : Ensures named .blockRule BlockDecl.decode BlockDecl.Valid := by
  intro value result accepted success
  obtain ⟨_, opened, success⟩ := bind_ok_iff.mp success
  obtain ⟨members, rfl, governed⟩ := Rule.fields_of_accepts accepted opened
  obtain ⟨_, _, success⟩ := bind_ok_iff.mp success
  obtain ⟨_, _, success⟩ := bind_ok_iff.mp success
  obtain ⟨config, configRead, success⟩ := bind_ok_iff.mp success
  obtain ⟨rotation, rotationRead, success⟩ := bind_ok_iff.mp success
  cases success
  exact {
    quarters := governed.withDefault rfl byte.optional (by simp) rotationRead
    kindKnown := governed.withDefault rfl Ensures.config.optional (by simp) configRead }

theorem reference (more : Nat) : Ensures (Schema.bundled.follow (more + 1))
    (.definition Rule.blockName) BlockDecl.decode BlockDecl.Valid :=
  fun _ _ accepted => block _ _ (Schema.blockName_accepts_iff.mp accepted)

theorem tiles (more : Nat) : Ensures (Schema.bundled.follow (more + 1)) .tilesRule Tiles.decode
    fun tiles => ∀ entry ∈ tiles.blocks.entries, entry.2.Valid := by
  intro value result accepted success
  obtain ⟨_, opened, success⟩ := bind_ok_iff.mp success
  obtain ⟨members, rfl, governed⟩ := Rule.fields_of_accepts accepted opened
  obtain ⟨_, _, success⟩ := bind_ok_iff.mp success
  obtain ⟨blocks, read, success⟩ := bind_ok_iff.mp success
  obtain ⟨_, _, success⟩ := bind_ok_iff.mp success
  cases success
  exact governed.required rfl (reference more).map read

theorem document (more : Nat) : Ensures (Schema.bundled.follow (more + 1)) .documentRule
    Document.decode fun document => ∀ entry ∈ document.tiles.blocks.entries, entry.2.Valid := by
  intro value result accepted success
  obtain ⟨_, opened, success⟩ := bind_ok_iff.mp success
  obtain ⟨members, rfl, governed⟩ := Rule.fields_of_accepts accepted opened
  obtain ⟨_, _, success⟩ := bind_ok_iff.mp success
  obtain ⟨read, decoded, success⟩ := bind_ok_iff.mp success
  obtain ⟨_, _, success⟩ := bind_ok_iff.mp success
  cases success
  exact governed.required rfl (tiles more) decoded

end Ensures

/-- A document that was checked against the schema of documents declares valid blocks only, also
where a key is given twice. -/
theorem Build.declared_valid {settings : Settings} {text : String} {document : Document}
    (bundled : settings.ChecksBundled)
    (read : readDocument settings text = .ok document) {cell : String} {block : BlockDecl}
    (declared : document.tiles.blocks.get? cell = some block) : block.Valid := by
  obtain ⟨value, _, read⟩ := bind_ok_iff.mp read
  obtain ⟨_, checked, decoded⟩ := bind_ok_iff.mp read
  rw [validate_bundled_ok_iff bundled] at checked
  exact Ensures.document value.depth value document (Schema.bundled_accepts_iff.mp checked)
    (mapError_ok_iff.mp decoded) _ (OrderedMap.mem_of_lookup declared)

end Blueprint
