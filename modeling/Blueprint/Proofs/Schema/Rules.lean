import Blueprint.Proofs.OrderedMap
import Blueprint.Schema.Check

/-!
The values that the rules of a schema accept, one kind of rule at a time.
-/

namespace Blueprint.Rule

variable {named : String → Check} {value : Json}

/-- A rule accepts what it has no complaint about. -/
def Accepts (named : String → Check) (rule : Rule) (value : Json) : Prop :=
  rule.check named value = none

theorem checkEach_eq (named : String → Check) (rules : List Rule) :
    checkEach named rules = rules.map (check named) := by
  induction rules with
  | nil => rfl
  | cons rule rules ih =>
    change check named rule :: checkEach named rules = _
    rw [ih, List.map_cons]

theorem checkNamed_eq (named : String → Check) (known : List (String × Rule)) :
    checkNamed named known = known.map fun entry => (entry.1, check named entry.2) := by
  induction known with
  | nil => rfl
  | cons entry known ih =>
    obtain ⟨key, rule⟩ := entry
    change (key, check named rule) :: checkNamed named known = _
    rw [ih, List.map_cons]

theorem lookup_checkNamed (known : List (String × Rule)) (key : String) :
    (checkNamed named known).lookup key = (known.lookup key).map (check named) := by
  rw [checkNamed_eq]
  exact OrderedMap.lookup_mapValues (fun _ => check named) key known

theorem member_eq_none_iff {check : Check} {key : String} :
    check.member key value = none ↔ check value = none := by
  rw [Check.member, Option.map_eq_none_iff]

theorem accepts_every {rules : List Rule} :
    (every rules).Accepts named value ↔ ∀ rule ∈ rules, rule.Accepts named value := by
  change (checkEach named rules).findSome? (· value) = none ↔ _
  simp only [checkEach_eq, List.findSome?_eq_none_iff, List.mem_map, forall_exists_index, and_imp,
    forall_apply_eq_imp_iff₂, Accepts]

theorem accepts_kinds {exact : Bool} {allowed : List Kind} :
    (kinds exact allowed).Accepts named value ↔
      ∃ kind ∈ allowed, kind.admits exact value = true := by
  change Check.kinds exact allowed value = none ↔ _
  rw [← List.any_eq_true, Check.kinds, complain]
  split <;> simp_all

/-- Text, lists and objects are of one kind each. -/
theorem accepts_text :
    (kinds false [.string]).Accepts named value ↔ ∃ text, value = .string text := by
  rw [accepts_kinds]
  cases value <;> simp [Kind.admits]

theorem accepts_array :
    (kinds false [.array]).Accepts named value ↔ ∃ items, value = .array items := by
  rw [accepts_kinds]
  cases value <;> simp [Kind.admits]

theorem accepts_object :
    (kinds false [.object]).Accepts named value ↔ ∃ members, value = .object members := by
  rw [accepts_kinds]
  cases value <;> simp [Kind.admits]

theorem accepts_required {keys : List String} {members : List (String × Json)} :
    (required keys).Accepts named (.object members) ↔
      ∀ key ∈ keys, (members.lookup key).isSome := by
  change (keys.find? fun key => (members.lookup key).isNone).bind (complain <| .missing ·) =
    none ↔ _
  simp only [complain, Option.bind_eq_none_iff, reduceCtorEq, imp_false]
  rw [← Option.eq_none_iff_forall_ne_some, List.find?_eq_none]
  simp only [Option.isNone_iff_eq_none, Option.isSome_iff_ne_none, ne_eq]

theorem closed_eq_none_iff {known : List (String × Check)} {members : List (String × Json)} :
    Check.closed known (.object members) = none ↔
      ∀ entry ∈ members, ∃ check, known.lookup entry.1 = some check ∧ check entry.2 = none := by
  have unknown : ((members.map Prod.fst).filter fun key => (known.lookup key).isNone) = [] ↔
      ∀ entry ∈ members, (known.lookup entry.1).isSome := by
    simp [List.filter_eq_nil_iff, Option.isSome_iff_ne_none]
  simp only [Check.closed, complain, Option.or_eq_none_iff, List.findSome?_eq_none_iff,
    Option.bind_eq_none_iff, ite_eq_left_iff, reduceCtorEq, imp_false, Decidable.not_not,
    List.isEmpty_iff, unknown, member_eq_none_iff]
  constructor
  · rintro ⟨satisfied, listed⟩ entry member
    obtain ⟨check, found⟩ := Option.isSome_iff_exists.mp (listed entry member)
    exact ⟨check, found, satisfied entry member check found⟩
  · intro all
    refine ⟨?_, ?_⟩
    · intro entry member check found
      obtain ⟨other, same, satisfied⟩ := all entry member
      cases found.symm.trans same
      exact satisfied
    · intro entry member
      obtain ⟨check, found, _⟩ := all entry member
      exact Option.isSome_iff_exists.mpr ⟨check, found⟩

/-- The members of a closed object are known, and each satisfies its rule. -/
theorem accepts_closed {known : List (String × Rule)} {members : List (String × Json)} :
    (closed known).Accepts named (.object members) ↔
      ∀ entry ∈ members, ∃ rule, known.lookup entry.1 = some rule ∧ rule.Accepts named entry.2 := by
  change Check.closed (checkNamed named known) (.object members) = none ↔ _
  simp only [closed_eq_none_iff, lookup_checkNamed, Accepts]
  refine forall_congr' fun entry => imp_congr_right fun _ => ?_
  cases known.lookup entry.1 <;> simp

theorem accepts_members {other : Rule} {members : List (String × Json)} :
    (Rule.members [] other).Accepts named (.object members) ↔
      ∀ entry ∈ members, other.Accepts named entry.2 := by
  change (members.findSome? fun entry => (check named other).member entry.1 entry.2) = none ↔ _
  simp only [List.findSome?_eq_none_iff, member_eq_none_iff, Accepts]

theorem items_eq_none_iff {check : Check} {position : Nat} {items : List Json} :
    check.items position items = none ↔ ∀ item ∈ items, check item = none := by
  induction items generalizing position with
  | nil => simp [Check.items]
  | cons item items ih =>
    simp only [Check.items, Option.or_eq_none_iff, Option.map_eq_none_iff, ih, List.forall_mem_cons]

theorem accepts_items {each : Rule} {elements : List Json} :
    (items each).Accepts named (.array elements) ↔
      ∀ item ∈ elements, each.Accepts named item := by
  change (check named each).items 0 elements = none ↔ _
  exact items_eq_none_iff

/-- Of several options one is satisfied. -/
theorem exists_of_accepts_oneOf {options : List Rule}
    (accepted : (oneOf options).Accepts named value) :
    ∃ option ∈ options, option.Accepts named value := by
  change Check.oneOf (checkEach named options) value = none at accepted
  rw [checkEach_eq, Check.oneOf] at accepted
  split at accepted
  · cases accepted
  · next chosen found =>
    have member : chosen ∈ [chosen] := List.mem_cons_self
    rw [← found, List.mem_filter, List.mem_map] at member
    obtain ⟨⟨option, listed, rfl⟩, satisfied⟩ := member
    exact ⟨option, listed, Option.isNone_iff_eq_none.mp satisfied⟩
  · cases accepted

/-- One of two options is satisfied, and only one. -/
theorem accepts_oneOf_pair {first second : Rule} :
    (oneOf [first, second]).Accepts named value ↔
      (first.Accepts named value ↔ ¬second.Accepts named value) := by
  change Check.oneOf [check named first, check named second] value = none ↔ _
  unfold Check.oneOf Accepts complain
  cases one : check named first value <;> cases two : check named second value <;>
    simp [one, two]

theorem accepts_listed {values : List Json} :
    (listed values).Accepts named value ↔ ∃ option ∈ values, value.same option = true := by
  change Check.listed values value = none ↔ _
  rw [← List.any_eq_true, Check.listed, complain]
  split <;> simp_all

theorem compare_integers (m n : Int) :
    Number.compare (.integer m) (.integer n) = Ord.compare m n := by
  simp only [Number.compare, Number.ratio, Int.cast_ofNat_Int, Int.mul_one]

theorem accepts_atLeast {bound n : Int} :
    (atLeast (.integer bound)).Accepts named (.number (.integer n)) ↔ bound ≤ n := by
  change Check.atLeast (.integer bound) (.number (.integer n)) = none ↔ _
  simp [Check.atLeast, complain, compare_integers, Int.compare_eq_lt]

theorem accepts_atMost {bound n : Int} :
    (atMost (.integer bound)).Accepts named (.number (.integer n)) ↔ n ≤ bound := by
  change Check.atMost (.integer bound) (.number (.integer n)) = none ↔ _
  simp [Check.atMost, complain, compare_integers, Int.compare_eq_gt]

end Blueprint.Rule
