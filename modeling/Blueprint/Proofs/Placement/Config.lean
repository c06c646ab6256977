import Blueprint.Placement.Config
import Blueprint.Proofs.Traversal

/-!
The configuration of a block, by cases, what the kind of a declared configuration makes of it, and
which errors there are. Only blocks that run a program are left to the codec.
-/

namespace Blueprint

theorem ConfigKind.name_of_ofName? {name : String} {kind : ConfigKind}
    (found : ConfigKind.ofName? name = some kind) : kind.name = name := by
  unfold ConfigKind.ofName? at found
  have named := List.find?_some found
  exact of_decide_eq_true named

namespace Placement

open Traversal

/-- The links of a block are power connections. -/
def Powered (block : BlockDecl) : Prop := block.links.isSome ∧ block.id ∈ powerBlocks

/-- All that the configuration of a block can be: its power connections, nothing, an error about the
kind of a declared configuration, or what a declared configuration of some kind means. -/
theorem config_cases (context : Context) (cell : String) (block : BlockDecl) (x y : Nat) :
    (Powered block ∧ config context cell block x y =
      .ok (.pointArray ((linksOf block context.document.tiles.grid x y).map (·.offset)))) ∨
    (block.config = none ∧ config context cell block x y = .ok .null) ∨
    (∃ declaration, block.config = some declaration ∧
      ConfigKind.ofName? declaration.kind = none ∧
      config context cell block x y = .error (.unsupportedKind declaration.kind)) ∨
    ∃ kind value, ¬Powered block ∧ block.config = some ⟨kind.name, value⟩ ∧
      config context cell block x y =
        declared context cell (linksOf block context.document.tiles.grid x y) kind value := by
  unfold config Powered
  by_cases powered : block.links.isSome ∧ block.id ∈ powerBlocks
  · exact .inl ⟨powered, if_pos powered⟩
  right
  simp only [if_neg powered]
  cases configured : block.config with
  | none => exact .inl ⟨rfl, rfl⟩
  | some declaration =>
    right
    cases found : ConfigKind.ofName? declaration.kind with
    | none => exact .inl ⟨declaration, rfl, found, by simp only [found]⟩
    | some kind =>
      refine .inr ⟨kind, declaration.value, powered, ?_, by simp only [found]⟩
      rw [ConfigKind.name_of_ofName? found]

/-- All that a declared configuration can mean: an entry of the catalog, a program, an error about a
point, or a truth value, a point or a text. -/
theorem declared_cases (context : Context) (cell : String) (links : List Link) (kind : ConfigKind)
    (value : String) :
    (∃ entry : ContentKind, kind.name = entry.name ∧
      declared context cell links kind value = content context.catalog entry value) ∨
    (kind = .program ∧
      declared context cell links kind value = program context cell links value) ∨
    declared context cell links kind value = .error (.invalidPoint value) ∨
    ∃ meaning, declared context cell links kind value = .ok meaning ∧
      ((∃ flag, meaning = .boolean flag) ∨ (∃ place, meaning = .point place) ∨
        meaning = .string value) := by
  cases kind with
  | item => exact .inl ⟨.item, rfl, rfl⟩
  | liquid => exact .inl ⟨.liquid, rfl, rfl⟩
  | unit => exact .inl ⟨.unit, rfl, rfl⟩
  | block => exact .inl ⟨.block, rfl, rfl⟩
  | program => exact .inr (.inl ⟨rfl, rfl⟩)
  | boolean => exact .inr (.inr (.inr ⟨_, rfl, .inl ⟨_, rfl⟩⟩))
  | string => exact .inr (.inr (.inr ⟨_, rfl, .inr (.inr rfl)⟩))
  | point =>
    right; right
    unfold declared point
    cases point? value with
    | none => exact .inl rfl
    | some place => exact .inr ⟨_, rfl, .inr (.inl ⟨place, rfl⟩)⟩

theorem content_ok_iff {catalog : Catalog} {kind : ContentKind} {value : String}
    {meaning : BlockConfig} : content catalog kind value = .ok meaning ↔
      ∃ id, catalog.lookup kind value = some id ∧ meaning = .content kind id := by
  unfold content
  cases catalog.lookup kind value <;> simp [eq_comm]

theorem content_error {catalog : Catalog} {kind : ContentKind} {value : String}
    {problem : PlacementError} (failure : content catalog kind value = .error problem) :
    problem = .unknownContent kind value := by
  unfold content at failure
  split at failure
  · cases failure
  · cases failure
    rfl

/-! ### Programs -/

/-- A block runs a program if its configuration is one. The links of a power block take the place of
its configuration. -/
def Runs (block : BlockDecl) (name : String) : Prop :=
  block.config = some ⟨"program", name⟩ ∧ ¬(block.links.isSome ∧ block.id ∈ powerBlocks)

variable {context : Context} {cell name : String} {block : BlockDecl} {x y : Nat}
  {links : List Link}

theorem config_of_runs (runs : Runs block name) (context : Context) (cell : String) (x y : Nat) :
    config context cell block x y =
      program context cell (linksOf block context.document.tiles.grid x y) name := by
  obtain ⟨configured, unpowered⟩ := runs
  have kind : ConfigKind.ofName? "program" = some .program := by decide
  unfold config
  rw [if_neg unpowered, configured]
  dsimp only
  rw [kind]
  rfl

theorem program_ok_iff {value : BlockConfig} :
    program context cell links name = .ok value ↔
      ∃ source code bytes, context.document.tiles.programs.get? name = some source ∧
        source.load context.shop = .ok code ∧
        context.codec.pack links code = .ok bytes ∧ value = .bytes bytes := by
  unfold program
  cases context.document.tiles.programs.get? name with
  | none => simp
  | some source =>
    simp only [bind_ok_iff, mapError_ok_iff, Except.ok.injEq, Option.some.injEq]
    constructor
    · rintro ⟨code, loaded, bytes, packed, same⟩
      exact ⟨source, code, bytes, rfl, loaded, packed, same.symm⟩
    · rintro ⟨_, code, bytes, rfl, loaded, packed, same⟩
      exact ⟨code, loaded, bytes, packed, same.symm⟩

/-- Errors that say neither that there is no such kind of configuration nor that the codec refuses a
processor. -/
def Ordinary (problem : PlacementError) : Prop :=
  (∀ kind, problem ≠ .unsupportedKind kind) ∧ ∀ cell cause, problem ≠ .codec cell cause

/-- A program is refused by the codec, or there is an ordinary error before that. -/
theorem program_error {problem : PlacementError}
    (failure : program context cell links name = .error problem) :
    (∃ source code cause, context.document.tiles.programs.get? name = some source ∧
      source.load context.shop = .ok code ∧ context.codec.pack links code = .error cause ∧
      problem = .codec cell cause) ∨ Ordinary problem := by
  unfold program at failure
  split at failure
  · cases failure
    exact .inr (by simp [Ordinary])
  · next source declared =>
    rcases bind_error_iff.mp failure with unloaded | ⟨code, loaded, failure⟩
    · obtain ⟨cause, _, rfl⟩ := mapError_error_iff.mp unloaded
      exact .inr (by simp [Ordinary])
    · rcases bind_error_iff.mp failure with packing | ⟨_, _, impossible⟩
      · obtain ⟨cause, refused, rfl⟩ := mapError_error_iff.mp packing
        exact .inl ⟨source, code, cause, declared, mapError_ok_iff.mp loaded, refused, rfl⟩
      · cases impossible

/-! ### What a configuration can be -/

/-- A configuration that is a number of the catalog is declared to be of this kind, and its value
is the name behind the number. -/
theorem config_content {kind : ContentKind} {id : UInt16}
    (success : config context cell block x y = .ok (.content kind id)) :
    ∃ value, block.config = some ⟨kind.name, value⟩ ∧
      context.catalog.lookup kind value = some id := by
  rcases config_cases context cell block x y with ⟨_, same⟩ | ⟨_, same⟩ | ⟨_, _, _, same⟩ |
    ⟨declaredKind, value, _, configured, same⟩
  · cases same.symm.trans success
  · cases same.symm.trans success
  · cases same.symm.trans success
  · rw [same] at success
    rcases declared_cases context cell _ declaredKind value with
      ⟨entry, named, meaning⟩ | ⟨rfl, meaning⟩ | meaning | ⟨_, meaning, other⟩
    · rw [meaning] at success
      obtain ⟨_, known, same⟩ := content_ok_iff.mp success
      cases same
      exact ⟨value, named ▸ configured, known⟩
    · rw [meaning] at success
      obtain ⟨_, _, _, _, _, _, impossible⟩ := program_ok_iff.mp success
      cases impossible
    · cases meaning.symm.trans success
    · cases meaning.symm.trans success
      rcases other with ⟨_, impossible⟩ | ⟨_, impossible⟩ | impossible <;> cases impossible

/-- A block cannot be configured because there is no such kind of configuration, because the codec
refuses its processor, or for an ordinary reason. -/
theorem config_error {problem : PlacementError}
    (failure : config context cell block x y = .error problem) :
    (∃ declaration, block.config = some declaration ∧
      ConfigKind.ofName? declaration.kind = none ∧
      problem = .unsupportedKind declaration.kind) ∨
    (∃ name source code cause, Runs block name ∧
      context.document.tiles.programs.get? name = some source ∧
      source.load context.shop = .ok code ∧
      context.codec.pack (linksOf block context.document.tiles.grid x y) code = .error cause ∧
      problem = .codec cell cause) ∨
    Ordinary problem := by
  rcases config_cases context cell block x y with ⟨_, same⟩ | ⟨_, same⟩ |
    ⟨declaration, configured, unknown, same⟩ | ⟨kind, value, unpowered, configured, same⟩
  · cases same.symm.trans failure
  · cases same.symm.trans failure
  · cases same.symm.trans failure
    exact .inl ⟨declaration, configured, unknown, rfl⟩
  · right
    rw [same] at failure
    rcases declared_cases context cell _ kind value with
      ⟨entry, _, meaning⟩ | ⟨rfl, meaning⟩ | meaning | ⟨_, meaning, _⟩
    · rw [meaning] at failure
      cases content_error failure
      exact .inr (by simp [Ordinary])
    · rw [meaning] at failure
      rcases program_error failure with ⟨source, code, cause, found, loaded, refused, rfl⟩ | ordinary
      · exact .inl ⟨value, source, code, cause, ⟨configured, unpowered⟩, found, loaded, refused, rfl⟩
      · exact .inr ordinary
    · cases meaning.symm.trans failure
      exact .inr (by simp [Ordinary])
    · cases meaning.symm.trans failure

/-! ### What a configuration depends on -/

/-- A block that runs no program is configured in sight of the grid and the catalog only. -/
theorem config_congr_of_idle {first second : Context} (idle : ∀ name, ¬Runs block name)
    (sameGrid : second.document.tiles.grid = first.document.tiles.grid)
    (sameCatalog : second.catalog = first.catalog) (cell : String) (x y : Nat) :
    config second cell block x y = config first cell block x y := by
  unfold config
  rw [sameGrid]
  split
  · rfl
  · next unpowered =>
    cases configured : block.config with
    | none => rfl
    | some declaration =>
      obtain ⟨name, value⟩ := declaration
      cases found : ConfigKind.ofName? name with
      | none => simp only [found]
      | some kind =>
        simp only [found]
        cases kind with
        | program =>
          cases ConfigKind.name_of_ofName? found
          exact absurd ⟨configured, unpowered⟩ (idle value)
        | point => rfl
        | boolean => rfl
        | string => rfl
        | _ => simp only [declared, sameCatalog]

end Placement

end Blueprint
