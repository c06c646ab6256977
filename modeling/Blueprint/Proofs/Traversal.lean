import Mathlib.Data.List.Forall2
import Blueprint.Text.Reader

/-!
Lists whose items are handled one after the other until one of them fails.
-/

namespace Blueprint.Traversal

open Text (bind_success)

variable {α β γ δ ε φ : Type}

theorem mapError_ok_iff {outcome : Except ε α} {rename : ε → φ} {value : α} :
    outcome.mapError rename = .ok value ↔ outcome = .ok value := by
  cases outcome <;> simp [Except.mapError]

theorem mapError_error_iff {outcome : Except ε α} {rename : ε → φ} {problem : φ} :
    outcome.mapError rename = .error problem ↔
      ∃ cause, outcome = .error cause ∧ problem = rename cause := by
  cases outcome <;> simp [Except.mapError, eq_comm]

theorem bind_ok_iff {first : Except ε α} {next : α → Except ε β} {result : β} :
    (first >>= next) = .ok result ↔ ∃ value, first = .ok value ∧ next value = .ok result := by
  constructor
  · exact bind_success
  · rintro ⟨value, rfl, success⟩
    exact success

theorem bind_error_iff {first : Except ε α} {next : α → Except ε β} {problem : ε} :
    (first >>= next) = .error problem ↔
      first = .error problem ∨ ∃ value, first = .ok value ∧ next value = .error problem := by
  cases first <;> simp [bind, Except.bind]

/-- Behind a guard, only what passes it succeeds. -/
theorem guarded_ok_iff {p : Prop} [Decidable p] {problem : ε} {rest : Except ε α} {value : α} :
    (if p then .error problem else rest) = .ok value ↔ ¬p ∧ rest = .ok value := by
  by_cases holds : p <;> simp [holds]

/-- An outcome is a success, whatever its value is. -/
def Succeeds (outcome : Except ε α) : Prop := ∃ value, outcome = .ok value

theorem Succeeds.bind {first : Except ε α} {next : α → Except ε β} (success : Succeeds first)
    (later : ∀ value, Succeeds (next value)) : Succeeds (first >>= next) := by
  obtain ⟨value, rfl⟩ := success
  exact later value

theorem succeeds_of_ne_error {outcome : Except ε α}
    (never : ∀ problem, outcome ≠ .error problem) : Succeeds outcome := by
  cases outcome with
  | error problem => exact absurd rfl (never problem)
  | ok value => exact ⟨value, rfl⟩

theorem ok_of_toOption {outcome : Except ε α} {value : α}
    (success : outcome.toOption = some value) : outcome = .ok value := by
  cases outcome with
  | error problem => cases success
  | ok result => exact congrArg Except.ok (Option.some.inj success)

/-- A traversal succeeds item by item. -/
theorem mapM_ok_iff {f : α → Except ε β} {items : List α} {results : List β} :
    items.mapM f = .ok results ↔ List.Forall₂ (fun x y => f x = .ok y) items results := by
  induction items generalizing results with
  | nil => cases results <;> simp [pure, Except.pure]
  | cons first rest ih =>
    rw [List.mapM_cons, List.forall₂_cons_left_iff]
    constructor
    · intro success
      obtain ⟨value, done, success⟩ := bind_success success
      obtain ⟨values, others, success⟩ := bind_success success
      cases success
      exact ⟨value, values, done, ih.mp others, rfl⟩
    · rintro ⟨value, values, done, others, rfl⟩
      rw [done, ih.mpr others]
      rfl

/-- A traversal stops at the first item that fails. -/
theorem mapM_error_iff {f : α → Except ε β} {items : List α} {problem : ε} :
    items.mapM f = .error problem ↔ ∃ before item after, items = before ++ item :: after ∧
      (∀ earlier ∈ before, Succeeds (f earlier)) ∧ f item = .error problem := by
  constructor
  · intro failure
    induction items with
    | nil => cases failure
    | cons first rest ih =>
      rw [List.mapM_cons, bind_error_iff] at failure
      rcases failure with here | ⟨value, done, later⟩
      · exact ⟨[], first, rest, rfl, by simp, here⟩
      · rcases bind_error_iff.mp later with behind | ⟨_, _, impossible⟩
        · obtain ⟨before, item, after, rfl, passed, failed⟩ := ih behind
          refine ⟨first :: before, item, after, rfl, ?_, failed⟩
          exact List.forall_mem_cons.mpr ⟨⟨value, done⟩, passed⟩
        · cases impossible
  · rintro ⟨before, item, after, rfl, passed, failed⟩
    induction before with
    | nil =>
      rw [List.nil_append, List.mapM_cons, failed]
      rfl
    | cons first before ih =>
      obtain ⟨⟨value, done⟩, others⟩ := List.forall_mem_cons.mp passed
      rw [List.cons_append, List.mapM_cons, done, bind_error_iff]
      exact .inr ⟨value, rfl, bind_error_iff.mpr (.inl (ih others))⟩

/-- A traversal that succeeds has a result in the place of every item. -/
theorem mapM_ok_at_iff {f : α → Except ε β} {items : List α} {results : List β} :
    items.mapM f = .ok results ↔ results.length = items.length ∧
      ∀ (i : Nat) (item : α), items[i]? = some item → ∃ result, results[i]? = some result ∧
        f item = .ok result := by
  rw [mapM_ok_iff]
  constructor
  · intro related
    induction related with
    | nil => simp
    | cons here _ ih =>
      refine ⟨by simp [ih.1], ?_⟩
      intro i item found
      cases i with
      | zero =>
        obtain rfl := Option.some.inj found
        exact ⟨_, rfl, here⟩
      | succ i => exact ih.2 i item found
  · intro each
    obtain ⟨sameLength, each⟩ := each
    induction items generalizing results with
    | nil =>
      obtain rfl := List.length_eq_zero_iff.mp sameLength
      exact .nil
    | cons first rest ih =>
      cases results with
      | nil => simp at sameLength
      | cons result others =>
        obtain ⟨found, same, here⟩ := each 0 first rfl
        obtain rfl := Option.some.inj same
        refine .cons here (ih (by simpa using sameLength) ?_)
        intro i item found
        exact each (i + 1) item found

/-- The place of the item at which a traversal stops. -/
theorem mapM_error_at_iff {f : α → Except ε β} {items : List α} {problem : ε} :
    items.mapM f = .error problem ↔ ∃ (i : Nat) (item : α), items[i]? = some item ∧
      f item = .error problem ∧
      ∀ (j : Nat) (earlier : α), j < i → items[j]? = some earlier → Succeeds (f earlier) := by
  rw [mapM_error_iff]
  constructor
  · intro stops
    obtain ⟨before, item, after, rfl, passed, failed⟩ := stops
    refine ⟨before.length, item, by simp, failed, ?_⟩
    intro j earlier inFront found
    rw [List.getElem?_append_left inFront] at found
    exact passed earlier (List.mem_of_getElem? found)
  · intro stops
    obtain ⟨i, item, found, failed, passed⟩ := stops
    obtain ⟨inside, same⟩ := List.getElem?_eq_some_iff.mp found
    refine ⟨items.take i, item, items.drop (i + 1), ?_, ?_, failed⟩
    · rw [← same, List.getElem_cons_drop, List.take_append_drop]
    · intro earlier member
      obtain ⟨j, found⟩ := List.mem_iff_getElem?.mp member
      have inFront : j < i := by
        have bound := (List.getElem?_eq_some_iff.mp found).1
        rw [List.length_take] at bound
        omega
      rw [List.getElem?_take_of_lt inFront] at found
      exact passed j earlier inFront found

/-- A traversal fails as one of its items does. -/
theorem mapM_error {f : α → Except ε β} {items : List α} {problem : ε}
    (failure : items.mapM f = .error problem) : ∃ item ∈ items, f item = .error problem := by
  obtain ⟨before, item, after, rfl, _, failed⟩ := mapM_error_iff.mp failure
  exact ⟨item, List.mem_append_right before List.mem_cons_self, failed⟩

/-- Only the outcomes of the items themselves count. -/
theorem mapM_congr {f g : α → Except ε β} {items : List α} (each : ∀ item ∈ items, f item = g item) :
    items.mapM f = items.mapM g := by
  induction items with
  | nil => rfl
  | cons first rest ih =>
    obtain ⟨here, later⟩ := List.forall_mem_cons.mp each
    rw [List.mapM_cons, List.mapM_cons, here, ih later]

/-- Items that are changed so that each has a changed outcome have a changed outcome together. -/
theorem mapM_map_eq {f : α → Except ε β} {other : γ → Except φ δ} {items : List α} {change : α → γ}
    (result : β → δ) (rename : ε → φ)
    (each : ∀ item ∈ items, other (change item) = ((f item).map result).mapError rename) :
    (items.map change).mapM other = ((items.mapM f).map (List.map result)).mapError rename := by
  induction items with
  | nil => rfl
  | cons first rest ih =>
    obtain ⟨here, later⟩ := List.forall_mem_cons.mp each
    rw [List.map_cons, List.mapM_cons, List.mapM_cons, here, ih later]
    cases f first with
    | error problem => rfl
    | ok value => cases rest.mapM f <;> rfl

/-- Changed items may have changed results. -/
theorem mapM_map_map {f : α → Except ε β} {other : γ → Except ε δ} {items : List α} {change : α → γ}
    {result : β → δ} (each : ∀ item ∈ items, other (change item) = (f item).map result) :
    (items.map change).mapM other = (items.mapM f).map (List.map result) := by
  have both : ∀ item ∈ items, other (change item) = ((f item).map result).mapError id := by
    intro item member
    rw [each item member]
    cases f item <;> rfl
  rw [mapM_map_eq result id both]
  cases items.mapM f <;> rfl

/-- Changed items may fail with changed problems. -/
theorem mapM_map_mapError {f : α → Except ε β} {other : γ → Except φ β} {items : List α}
    {change : α → γ} {rename : ε → φ}
    (each : ∀ item ∈ items, other (change item) = (f item).mapError rename) :
    (items.map change).mapM other = (items.mapM f).mapError rename := by
  have both : ∀ item ∈ items, other (change item) = ((f item).map id).mapError rename := by
    intro item member
    rw [each item member]
    cases f item <;> rfl
  rw [mapM_map_eq id rename both, List.map_id_fun]
  cases items.mapM f <;> rfl

theorem forM_cons (f : α → Except ε Unit) (first : α) (rest : List α) :
    (first :: rest).forM f = (f first >>= fun _ => rest.forM f) :=
  rfl

theorem forM_ok_iff {f : α → Except ε Unit} {items : List α} :
    items.forM f = .ok () ↔ ∀ item ∈ items, f item = .ok () := by
  induction items with
  | nil => simp [pure, Except.pure]
  | cons first rest ih =>
    rw [forM_cons, bind_ok_iff, List.forall_mem_cons, ← ih]
    constructor
    · rintro ⟨_, here, later⟩
      exact ⟨here, later⟩
    · rintro ⟨here, later⟩
      exact ⟨_, here, later⟩

theorem forM_error {f : α → Except ε Unit} {items : List α} {problem : ε}
    (failure : items.forM f = .error problem) : ∃ item ∈ items, f item = .error problem := by
  induction items with
  | nil => cases failure
  | cons first rest ih =>
    rw [forM_cons, bind_error_iff] at failure
    rcases failure with here | ⟨_, _, later⟩
    · exact ⟨first, List.mem_cons_self, here⟩
    · obtain ⟨item, member, failed⟩ := ih later
      exact ⟨item, List.mem_cons_of_mem _ member, failed⟩

/-- Lists that are traversed inside a traversal may be joined first. -/
theorem mapM_flatMap (items : List α) (parts : α → List β) (f : β → Except ε γ) :
    (items.flatMap parts).mapM f = (items.mapM fun x => (parts x).mapM f).map List.flatten := by
  induction items with
  | nil => rfl
  | cons first rest ih =>
    rw [List.flatMap_cons, List.mapM_append, List.mapM_cons, ih]
    cases (parts first).mapM f with
    | error problem => rfl
    | ok values => cases rest.mapM fun x => (parts x).mapM f <;> rfl

theorem exists_left_of_mem {R : α → β → Prop} {items : List α} {results : List β}
    (related : List.Forall₂ R items results) {result : β} (member : result ∈ results) :
    ∃ item ∈ items, R item result := by
  induction related with
  | nil => cases member
  | cons first _ ih =>
    rcases List.mem_cons.mp member with rfl | member
    · exact ⟨_, List.mem_cons_self, first⟩
    · obtain ⟨item, found, holds⟩ := ih member
      exact ⟨item, List.mem_cons_of_mem _ found, holds⟩

theorem exists_right_of_mem {R : α → β → Prop} {items : List α} {results : List β}
    (related : List.Forall₂ R items results) {item : α} (member : item ∈ items) :
    ∃ result ∈ results, R item result := by
  exact exists_left_of_mem related.flip member

/-- What both sides of related items agree on is the same for the two lists. -/
theorem map_eq_of_forall₂ {R : α → β → Prop} {items : List α} {results : List β} {f : α → γ}
    {g : β → γ} (related : List.Forall₂ R items results) (agree : ∀ x y, R x y → f x = g y) :
    items.map f = results.map g := by
  induction related with
  | nil => rfl
  | cons first _ ih => rw [List.map_cons, List.map_cons, agree _ _ first, ih]

/-- What numbered items are replaced by is related to what the items beside their results are
replaced by, if it is so for each of them. -/
theorem forall₂_flatMap_zip {R : α × Nat → β → Prop} {S : γ → δ → Prop} {items : List α}
    {results : List β} {start : Nat} {f : α × Nat → List γ} {g : α × β → List δ}
    (related : List.Forall₂ R (items.zipIdx start) results)
    (each : ∀ x i y, R (x, i) y → List.Forall₂ S (f (x, i)) (g (x, y))) :
    List.Forall₂ S ((items.zipIdx start).flatMap f) ((items.zip results).flatMap g) := by
  induction items generalizing start results with
  | nil => exact .nil
  | cons first rest ih =>
    rw [List.zipIdx_cons] at related ⊢
    cases related with
    | cons here later =>
      rw [List.zip_cons_cons, List.flatMap_cons, List.flatMap_cons]
      exact List.rel_append (each _ _ _ here) (ih later)

end Blueprint.Traversal
