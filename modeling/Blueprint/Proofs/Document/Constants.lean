import Blueprint.Proofs.Document.Typing
import Blueprint.Proofs.Document.Validity
import Mathlib.Data.List.Find

/-!
Documents as they are written, with other constants. What the schema says about a document and the
way it gets its types do not depend on the constants, as long as these satisfy the schema.
-/

namespace Blueprint

open Traversal

/-- The members of a document besides its constants. -/
def Json.besidesConstants (members : List (String × Json)) : List (String × Json) :=
  members.filter fun entry => entry.1 ≠ "consts"

namespace Schema

/-- The part of the schema that constants have to satisfy. -/
def constants : Schema := ⟨.mapOf .textOrTexts, []⟩

/-- All that an object lists as constants satisfies the schema. -/
def ListsConstants (members : List (String × Json)) : Prop :=
  ∀ value, ("consts", value) ∈ members → constants.violation? value = none

/-- Whatever constants a document has, it is written with constants that satisfy the schema. -/
theorem listsConstants_encode (info tiles : Json) (consts : OrderedMap Constant) :
    ListsConstants
      [("info", info), ("tiles", tiles), ("consts", consts.encode Constant.encode)] := by
  intro value member
  have written : value = consts.encode Constant.encode := by
    simpa using member
  rw [written]
  exact Rule.mapOf_accepts_encode.mpr fun entry _ => Rule.textOrTexts_accepts_constant entry.2

end Schema

/-- Two objects are documents with the same members besides the constants, and all constants of both
satisfy the schema. -/
structure Json.SameButConstants (first second : List (String × Json)) : Prop where
  others : Json.besidesConstants second = Json.besidesConstants first
  valid : Schema.ListsConstants first
  stillValid : Schema.ListsConstants second

variable {α ε : Type} {first second members : List (String × Json)}

/-! ### Members besides the constants -/

namespace Json

theorem besidesConstants_cons (value : Json) :
    besidesConstants (("consts", value) :: members) = besidesConstants members := rfl

theorem besidesConstants_cons_other {entry : String × Json} (other : entry.1 ≠ "consts") :
    besidesConstants (entry :: members) = entry :: besidesConstants members :=
  List.filter_cons_of_pos (decide_eq_true other)

theorem lookup_besidesConstants {key : String} (other : key ≠ "consts") :
    (besidesConstants members).lookup key = members.lookup key := by
  induction members with
  | nil => rfl
  | cons entry rest ih =>
    by_cases constant : entry.1 = "consts"
    · obtain ⟨name, value⟩ := entry
      cases constant
      rw [besidesConstants_cons, ih, OrderedMap.lookup_cons_ne other]
    · rw [besidesConstants_cons_other constant, OrderedMap.lookup_cons_if,
        OrderedMap.lookup_cons_if, ih]

/-- A search that passes over constants does not miss them. -/
theorem findSome?_besidesConstants {f : String × Json → Option α}
    (silent : ∀ value, ("consts", value) ∈ members → f ("consts", value) = none) :
    (besidesConstants members).findSome? f = members.findSome? f := by
  induction members with
  | nil => rfl
  | cons entry rest ih =>
    have later := ih fun value member => silent value (List.mem_cons_of_mem entry member)
    by_cases constant : entry.1 = "consts"
    · obtain ⟨name, value⟩ := entry
      cases constant
      rw [besidesConstants_cons, later, List.findSome?_cons, silent value List.mem_cons_self]
    · rw [besidesConstants_cons_other constant, List.findSome?_cons, List.findSome?_cons, later]

theorem forM_besidesConstants {f : String × Json → Except ε Unit}
    (passes : ∀ value, ("consts", value) ∈ members → f ("consts", value) = .ok ()) :
    (besidesConstants members).forM f = members.forM f := by
  induction members with
  | nil => rfl
  | cons entry rest ih =>
    have later := ih fun value member => passes value (List.mem_cons_of_mem entry member)
    by_cases constant : entry.1 = "consts"
    · obtain ⟨name, value⟩ := entry
      cases constant
      rw [besidesConstants_cons, later, forM_cons, passes value List.mem_cons_self]
      rfl
    · rw [besidesConstants_cons_other constant, forM_cons, forM_cons, later]

theorem SameButConstants.lookup (same : SameButConstants first second) {key : String}
    (other : key ≠ "consts") : second.lookup key = first.lookup key := by
  rw [← lookup_besidesConstants other, same.others, lookup_besidesConstants other]

end Json

/-! ### Checking -/

namespace Check

open Json

theorem required_constants (same : SameButConstants first second) {keys : List String}
    (free : "consts" ∉ keys) :
    Check.required keys (.object second) = Check.required keys (.object first) := by
  have lookups : ∀ key ∈ keys, (second.lookup key).isNone = (first.lookup key).isNone := by
    intro key member
    have other : key ≠ "consts" := fun equal => free (equal ▸ member)
    rw [same.lookup other]
  dsimp only [Check.required]
  rw [List.find?_congr lookups]

theorem closed_constants (same : SameButConstants first second) {known : List (String × Check)}
    {check : Check} (listed : known.lookup "consts" = some check)
    (accepts : ∀ value, Schema.constants.violation? value = none → check value = none) :
    Check.closed known (.object second) = Check.closed known (.object first) := by
  have bad {members : List (String × Json)} (valid : Schema.ListsConstants members) :
      (besidesConstants members).findSome? (fun entry =>
        (known.lookup entry.1).bind (·.member entry.1 entry.2)) =
      members.findSome? fun entry => (known.lookup entry.1).bind (·.member entry.1 entry.2) := by
    refine findSome?_besidesConstants fun value member => ?_
    rw [listed, Option.bind_some, Check.member, accepts value (valid value member), Option.map_none]
  have unknown (members : List (String × Json)) :
      ((besidesConstants members).map Prod.fst).filter (fun key => (known.lookup key).isNone) =
        (members.map Prod.fst).filter fun key => (known.lookup key).isNone := by
    rw [List.filter_map, List.filter_map, besidesConstants, List.filter_filter]
    refine congrArg _ (List.filter_congr fun entry _ => ?_)
    by_cases constant : entry.1 = "consts"
    · simp [constant, listed]
    · simp [constant]
  dsimp only [Check.closed]
  rw [← bad same.valid, ← bad same.stillValid, ← unknown first, ← unknown second, same.others]

end Check

namespace Schema

/-- Declarations of blocks do not refer to each other, so it does not matter how often references
are followed. -/
theorem check_follow (more : Nat) (value : Json) :
    Rule.documentRule.check (bundled.follow (more + 1)) value =
      Rule.documentRule.check (bundled.follow 1) value := by
  rfl

theorem bundled_violation? (value : Json) :
    bundled.violation? value = Rule.documentRule.check (bundled.follow 1) value := by
  rw [violation?, show bundled.definitions.length = 1 from rfl, Nat.mul_one]
  exact check_follow value.depth value

/-- The rules of a document for its members, the last one for the constants. -/
def documentChecks : List (String × Check) :=
  Rule.checkNamed (bundled.follow 1) [("$schema", .text), ("info", .infoRule),
    ("tiles", .tilesRule), ("consts", .mapOf .textOrTexts)]

theorem violation?_constants (same : Json.SameButConstants first second) :
    bundled.violation? (.object second) = bundled.violation? (.object first) := by
  have required : Check.required ["info", "tiles"] (.object second) =
      Check.required ["info", "tiles"] (.object first) :=
    Check.required_constants same (by decide)
  have closed : Check.closed documentChecks (.object second) =
      Check.closed documentChecks (.object first) :=
    Check.closed_constants same rfl fun value accepted => accepted
  have kind (members : List (String × Json)) :
      Check.kinds false [.object] (.object members) = none := rfl
  rw [bundled_violation?, bundled_violation?]
  change [Check.kinds false [.object], Check.required _, Check.closed documentChecks].findSome?
      (fun check => check (.object second)) =
    [Check.kinds false [.object], Check.required _, Check.closed documentChecks].findSome?
      (fun check => check (.object first))
  simp only [List.findSome?_cons, List.findSome?_nil, kind, required, closed]

end Schema

/-! ### Reading -/

namespace Fields

open Json

theorem required_constants (same : SameButConstants first second) {name : String}
    (other : name ≠ "consts") (position : Nat) (decode : Decode α) :
    (named second).required position name decode = (named first).required position name decode := by
  have found : (named second).find? position name = (named first).find? position name :=
    same.lookup other
  rw [required, required, found]

theorem forM_constants (same : SameButConstants first second) {check : String × Json → Except ε Unit}
    (accepts : ∀ value, Schema.constants.violation? value = none →
      check ("consts", value) = .ok ()) : second.forM check = first.forM check := by
  have passes {members : List (String × Json)} (valid : Schema.ListsConstants members) :
      (besidesConstants members).forM check = members.forM check :=
    forM_besidesConstants fun value member => accepts value (valid value member)
  rw [← passes same.valid, ← passes same.stillValid, same.others]

end Fields

namespace Document

open Decode

theorem constants_decoded {value : Json} (valid : Schema.constants.violation? value = none) :
    Succeeds (map Constant.decode value) := by
  have fits : Fits (Schema.constants.follow 0) (.mapOf .textOrTexts) (map Constant.decode) .never :=
    Fits.constant.map_of_never
  exact fits.total valid

theorem consts_read (valid : Schema.ListsConstants members) : Succeeds
    ((Fields.named members).withDefault 2 "consts" OrderedMap.empty (map Constant.decode)) := by
  have here : (Fields.named members).find? 2 "consts" = members.lookup "consts" := rfl
  rw [Fields.withDefault, here]
  cases found : members.lookup "consts" with
  | none => exact ⟨_, rfl⟩
  | some value => exact constants_decoded (valid value (OrderedMap.mem_of_lookup found))

/-- What is read of the members of a document before its fields. -/
def readMember (entry : String × Json) : Except DecodeError Unit :=
  (([("info", check Info.decode), ("tiles", check Tiles.decode),
    ("consts", check (map Constant.decode))].lookup entry.1).getD fun _ => .ok ()) entry.2

theorem decode_object (members : List (String × Json)) :
    decode (.object members) = (do
      members.forM readMember
      let info ← (Fields.named members).required 0 "info" Info.decode
      let tiles ← (Fields.named members).required 1 "tiles" Tiles.decode
      let consts ← (Fields.named members).withDefault 2 "consts" .empty (map Constant.decode)
      .ok ⟨info, tiles, consts⟩) := by
  change ((members.forM readMember >>= fun _ => .ok (Fields.named members)) >>= fun _ => _) = _
  cases members.forM readMember <;> rfl

theorem readMember_constants {value : Json} (valid : Schema.constants.violation? value = none) :
    readMember ("consts", value) = .ok () := by
  obtain ⟨constants, decoded⟩ := constants_decoded valid
  change (map Constant.decode value).map (fun _ => ()) = .ok ()
  rw [decoded]
  rfl

/-- The document is the same but for the constants, or it fails to be one for the same reason. -/
theorem decode_constants (same : Json.SameButConstants first second) : ∃ constants,
    decode (.object second) =
      (decode (.object first)).map fun document => { document with consts := constants } := by
  obtain ⟨old, readOld⟩ := consts_read same.valid
  obtain ⟨constants, read⟩ := consts_read same.stillValid
  refine ⟨constants, ?_⟩
  rw [decode_object, decode_object, readOld, read,
    Fields.forM_constants same fun value => readMember_constants,
    Fields.required_constants same (by decide), Fields.required_constants same (by decide)]
  cases first.forM readMember with
  | error problem => rfl
  | ok _ =>
    cases (Fields.named first).required 0 "info" Info.decode with
    | error problem => rfl
    | ok info => cases (Fields.named first).required 1 "tiles" Tiles.decode <;> rfl

end Document

end Blueprint
