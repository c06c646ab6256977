import Blueprint.Proofs.Schema.Rules
import Blueprint.Schema.Bundled

/-!
The rules that the schema of source documents consists of, and the values that they accept.
-/

namespace Blueprint

namespace Rule

variable {named : String → Check} {value : Json}

def text : Rule := every [kinds false [.string]]

def listOf (item : Rule) : Rule := every [kinds false [.array], items item]

def texts : Rule := listOf text

def mapOf (rule : Rule) : Rule := every [kinds false [.object], .members [] rule]

def record (keys : List String) (known : List (String × Rule)) : Rule :=
  every [kinds false [.object], required keys, closed known]

def textOrTexts : Rule := every [oneOf [text, texts]]

/-- One of the names of the kinds of configuration. -/
def configName : Rule := every [kinds false [.string], listed (Schema.configNames.map .string)]

def configRule : Rule := record ["type", "value"] [("type", configName), ("value", text)]

def rotationRule : Rule :=
  every [kinds false [.integer], atLeast (.integer 0), atMost (.integer 3)]

def blockRule : Rule :=
  record ["id"]
    [("id", text), ("links", texts), ("config", configRule), ("rotation", rotationRule)]

def infoRule : Rule :=
  record ["name", "authors", "version"]
    [("name", text), ("description", text), ("labels", texts), ("authors", texts),
      ("version", text), ("tags", mapOf text)]

/-- The text of the reference that leads to the rule of blocks. -/
def blockName : String := "#/definitions/block"

def tilesRule : Rule :=
  record ["grid", "blocks"]
    [("grid", listOf texts), ("blocks", mapOf (definition blockName)),
      ("programs", mapOf textOrTexts)]

def documentRule : Rule :=
  record ["info", "tiles"]
    [("$schema", text), ("info", infoRule), ("tiles", tilesRule), ("consts", mapOf textOrTexts)]

/-! ### What the rules accept -/

theorem text_accepts_iff : text.Accepts named value ↔ ∃ content, value = .string content := by
  rw [text, accepts_every, List.forall_mem_singleton, accepts_text]

theorem listOf_accepts_iff {item : Rule} :
    (listOf item).Accepts named value ↔
      ∃ elements, value = .array elements ∧ ∀ element ∈ elements, item.Accepts named element := by
  simp only [listOf, accepts_every, List.forall_mem_cons, List.not_mem_nil, false_implies,
    implies_true, and_true, accepts_array]
  constructor
  · rintro ⟨⟨elements, rfl⟩, accepted⟩
    exact ⟨elements, rfl, accepts_items.mp accepted⟩
  · rintro ⟨elements, rfl, accepted⟩
    exact ⟨⟨elements, rfl⟩, accepts_items.mpr accepted⟩

theorem mapOf_accepts_iff {rule : Rule} :
    (mapOf rule).Accepts named value ↔
      ∃ entries, value = .object entries ∧ ∀ entry ∈ entries, rule.Accepts named entry.2 := by
  simp only [mapOf, accepts_every, List.forall_mem_cons, List.not_mem_nil, false_implies,
    implies_true, and_true, accepts_object]
  constructor
  · rintro ⟨⟨entries, rfl⟩, accepted⟩
    exact ⟨entries, rfl, accepts_members.mp accepted⟩
  · rintro ⟨entries, rfl, accepted⟩
    exact ⟨⟨entries, rfl⟩, accepts_members.mpr accepted⟩

theorem record_accepts_iff {keys : List String} {known : List (String × Rule)} :
    (record keys known).Accepts named value ↔
      ∃ members, value = .object members ∧ (∀ key ∈ keys, (members.lookup key).isSome) ∧
        ∀ entry ∈ members, ∃ rule,
          known.lookup entry.1 = some rule ∧ rule.Accepts named entry.2 := by
  simp only [record, accepts_every, List.forall_mem_cons, List.not_mem_nil, false_implies,
    implies_true, and_true, accepts_object]
  constructor
  · rintro ⟨⟨members, rfl⟩, present, accepted⟩
    exact ⟨members, rfl, accepts_required.mp present, accepts_closed.mp accepted⟩
  · rintro ⟨members, rfl, present, accepted⟩
    exact ⟨⟨members, rfl⟩, accepts_required.mpr present, accepts_closed.mpr accepted⟩

theorem text_or_texts_of_accepts (accepted : textOrTexts.Accepts named value) :
    text.Accepts named value ∨ texts.Accepts named value := by
  rw [textOrTexts, accepts_every, List.forall_mem_singleton] at accepted
  obtain ⟨option, listed, satisfied⟩ := exists_of_accepts_oneOf accepted
  simp only [List.mem_cons, List.not_mem_nil, or_false] at listed
  rcases listed with rfl | rfl
  · exact Or.inl satisfied
  · exact Or.inr satisfied

theorem text_of_accepts_configName (accepted : configName.Accepts named value) :
    text.Accepts named value := by
  rw [configName, accepts_every, List.forall_mem_cons] at accepted
  rw [text, accepts_every, List.forall_mem_singleton]
  exact accepted.1

/-- A rotation is an integer from zero to three, or a double. -/
theorem number_of_accepts_rotation (accepted : rotationRule.Accepts named value) :
    (∃ n, value = .number (.integer n) ∧ 0 ≤ n ∧ n ≤ 3) ∨ ∃ x, value = .number (.double x) := by
  simp only [rotationRule, accepts_every, List.forall_mem_cons, List.not_mem_nil, false_implies,
    implies_true, and_true] at accepted
  obtain ⟨kind, low, high⟩ := accepted
  rw [accepts_kinds] at kind
  obtain ⟨_, only, admitted⟩ := kind
  cases List.mem_singleton.mp only
  cases value with
  | number number =>
    cases number with
    | integer n => exact Or.inl ⟨n, rfl, accepts_atLeast.mp low, accepts_atMost.mp high⟩
    | double x => exact Or.inr ⟨x, rfl⟩
  | _ => cases admitted

end Rule

namespace Schema

def bundled : Schema := ⟨Rule.documentRule, [(Rule.blockName, Rule.blockRule)]⟩

theorem ofJson_bundledJson : ofJson bundledJson = .ok bundled := by
  rfl

/-- The reference to the rule of blocks is followed on every value. -/
theorem bundled_accepts_iff {value : Json} :
    bundled.violation? value = none ↔
      Rule.documentRule.Accepts (bundled.follow (value.depth + 1)) value := by
  rw [violation?, show bundled.definitions.length = 1 from rfl, Nat.mul_one]
  exact Iff.rfl

theorem blockName_accepts_iff {more : Nat} {value : Json} :
    (Rule.definition Rule.blockName).Accepts (bundled.follow (more + 1)) value ↔
      Rule.blockRule.Accepts (bundled.follow more) value :=
  Iff.rfl

end Schema

end Blueprint
