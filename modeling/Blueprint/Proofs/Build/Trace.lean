import Blueprint.Proofs.Build.Stages
import Blueprint.Proofs.Placement.Config
import Blueprint.Trace

/-!
A build that reports its progress has the result of the same build without a report.
-/

namespace Blueprint.Traced

open Traversal

variable {ε φ α β : Type}

/-! ### Steps -/

@[simp] theorem result_quiet (result : Except ε α) : (quiet result).result = result := rfl

@[simp] theorem result_pure (value : α) : (pure value : Traced ε α).result = .ok value := rfl

@[simp] theorem result_report (events : List Event) :
    (report events : Traced ε Unit).result = .ok () := rfl

@[simp] theorem result_mapError (f : ε → φ) (step : Traced ε α) :
    (step.mapError f).result = step.result.mapError f := rfl

@[simp] theorem result_bind (step : Traced ε α) (next : α → Traced ε β) :
    (step >>= next).result = step.result >>= fun value => (next value).result := by
  change (step.andThen next).result = _
  unfold andThen
  cases step.result <;> rfl

theorem events_bind_ok {step : Traced ε α} {value : α} (success : step.result = .ok value)
    (next : α → Traced ε β) : (step >>= next).events = step.events ++ (next value).events := by
  change (step.andThen next).events = _
  rw [andThen, success]

/-- Nothing is reported behind a failure. -/
theorem events_bind_error {step : Traced ε α} {problem : ε} (failure : step.result = .error problem)
    (next : α → Traced ε β) : (step >>= next).events = step.events := by
  change (step.andThen next).events = _
  rw [andThen, failure]

theorem result_each (f : α → Traced ε β) (items : List α) :
    (each f items).result = items.mapM fun item => (f item).result := by
  induction items with
  | nil => rfl
  | cons item items ih =>
    rw [each, result_bind, List.mapM_cons]
    simp only [result_bind, ih, result_pure]
    rfl

/-! ### Builds -/

theorem program_result (shop : Workshop) (source : Program) :
    (program shop source).result = source.load shop := by
  cases source with
  | lines code => rfl
  | path relative =>
    simp only [program, Program.load, result_bind, result_quiet]
    congr 1
    funext content
    split <;> rfl

theorem programName?_eq_some_iff {block : BlockDecl} {name : String} :
    programName? block = some name ↔ Placement.Runs block name := by
  have kind {name : String} : ConfigKind.ofName? name = some .program ↔ name = "program" :=
    ⟨fun found => (ConfigKind.name_of_ofName? found).symm, fun same => by rw [same]; decide⟩
  unfold programName? Placement.Runs
  split
  · next powered => simp [powered]
  · next unpowered =>
    simp only [Option.bind_eq_some_iff, Option.ite_none_right_eq_some, kind, unpowered,
      not_false_eq_true, and_true]
    constructor
    · rintro ⟨⟨_, _⟩, configured, rfl, same⟩
      cases same
      exact configured
    · intro configured
      exact ⟨_, configured, rfl, rfl⟩

variable {context : Placement.Context}

theorem processor_result (cell : String) (links : List Link) (name : String) :
    (processor context cell links name).result = Placement.program context cell links name := by
  unfold processor Placement.program
  cases context.document.tiles.programs.get? name with
  | none => rfl
  | some source =>
    simp only [result_bind, result_mapError, program_result, result_quiet, result_pure]

theorem config_result (cell : String) (block : BlockDecl) (x y : Nat) :
    (config context cell block x y).result = Placement.config context cell block x y := by
  unfold config
  cases named : programName? block with
  | none => rfl
  | some name =>
    rw [Placement.config_of_runs (programName?_eq_some_iff.mp named)]
    exact processor_result cell _ name

theorem tile_result (cell : String) (x y : Nat) :
    (tile context cell x y).result = Placement.tile context cell x y := by
  unfold tile Placement.tile
  cases context.document.tiles.blocks.get? cell with
  | none => rfl
  | some block =>
    dsimp only
    split
    · rfl
    · simp only [result_bind, config_result]
      rfl

theorem place_result (cell : String) (x y : Nat) :
    (place context cell x y).result = Placement.place context cell x y := by
  unfold place Placement.place
  split
  · rfl
  · simp only [result_bind, tile_result, result_pure]

theorem grid_result (context : Placement.Context) :
    (grid context).result = Placement.grid context := by
  simp only [grid, result_each, place_result]
  rfl

theorem assemble_result (context : Placement.Context) :
    (assemble context).result = Build.assemble context := by
  unfold assemble Build.assemble
  dsimp only
  split
  · rfl
  · simp only [result_bind, result_mapError, grid_result]
    rfl

/-- The report changes nothing. -/
theorem build_result (settings : Settings) (text : String) :
    (build settings text).result = Blueprint.build settings text := by
  simp only [build, Blueprint.build, result_bind, result_quiet, result_report, assemble_result]
  rfl

end Blueprint.Traced
