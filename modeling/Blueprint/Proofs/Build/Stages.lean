import Blueprint.Build
import Blueprint.Proofs.Document.RoundTrip
import Blueprint.Proofs.OrderedMap
import Blueprint.Proofs.Schema.Bundled
import Blueprint.Proofs.Traversal

/-!
The stages of a build, and what each of them hands to the next.
-/

namespace Blueprint

open Traversal

/-- Documents are checked against the schema of documents. -/
def Settings.ChecksBundled (settings : Settings) : Prop :=
  settings.validator.compile settings.schema = .ok Schema.bundled.finding?

theorem Schema.finding?_eq_none_iff {schema : Schema} {value : Json} :
    schema.finding? value = none ↔ schema.violation? value = none :=
  Option.map_eq_none_iff

theorem Settings.standard_checksBundled : standard.ChecksBundled := by
  change ((Schema.ofJson Schema.bundledJson).mapError Schema.Defect.text).map Schema.finding? = _
  rw [Schema.ofJson_bundledJson]
  rfl

namespace Build

/-- A value is valid if there is a schema and the check that it stands for finds nothing. -/
theorem validate_ok_iff {validator : Validator} {schema value : Json} :
    validate validator schema value = .ok () ↔
      ∃ finding?, validator.compile schema = .ok finding? ∧ finding? value = none := by
  unfold validate
  rw [bind_ok_iff]
  simp only [mapError_ok_iff]
  refine exists_congr fun finding? => and_congr_right fun _ => ?_
  cases finding? value <;> simp

theorem validate_of_compiled {validator : Validator} {schema value : Json}
    {finding? : Json → Option Finding} (compiled : validator.compile schema = .ok finding?) :
    validate validator schema value = match finding? value with
      | some finding => .error (.violation finding)
      | none => .ok () := by
  rw [validate, compiled]
  rfl

theorem validate_bundled {settings : Settings} (bundled : settings.ChecksBundled) (value : Json) :
    validate settings.validator settings.schema value = match Schema.bundled.finding? value with
      | some finding => .error (.violation finding)
      | none => .ok () :=
  validate_of_compiled bundled

theorem validate_bundled_ok_iff {settings : Settings} (bundled : settings.ChecksBundled)
    {value : Json} : validate settings.validator settings.schema value = .ok () ↔
      Schema.bundled.violation? value = none := by
  rw [← Schema.finding?_eq_none_iff, validate_bundled bundled]
  cases Schema.bundled.finding? value <;> simp

/-- What is left of reading a document once there is a value. -/
theorem readDocument_of_parsed {settings : Settings} {text : String} {value : Json}
    (parsed : parseSource text = .ok value) :
    readDocument settings text =
      (validate settings.validator settings.schema value >>= fun _ =>
        (Document.decode value).mapError .untyped) := by
  rw [readDocument, parsed]
  rfl

/-- What is left of reading a document once its value satisfies the schema. -/
theorem readDocument_of_valid {settings : Settings} {text : String} {value : Json}
    (parsed : parseSource text = .ok value)
    (valid : validate settings.validator settings.schema value = .ok ()) :
    readDocument settings text = (Document.decode value).mapError .untyped := by
  rw [readDocument_of_parsed parsed, valid]
  rfl

/-- No block is placed before the document has been read. -/
theorem readDocument_ne_placement {settings : Settings} {text : String} {cause : PlacementError} :
    readDocument settings text ≠ .error (.placement cause) := by
  intro failure
  rcases bind_error_iff.mp failure with parsing | ⟨value, _, failure⟩
  · obtain ⟨_, _, impossible⟩ := mapError_error_iff.mp parsing
    cases impossible
  · rcases bind_error_iff.mp failure with validating | ⟨_, _, decoding⟩
    · rcases bind_error_iff.mp validating with compiling | ⟨finding?, _, checking⟩
      · obtain ⟨_, _, impossible⟩ := mapError_error_iff.mp compiling
        cases impossible
      · split at checking
        · cases checking
        · cases checking
    · obtain ⟨_, _, impossible⟩ := mapError_error_iff.mp decoding
      cases impossible

theorem build_ok_iff {settings : Settings} {text : String} {schematic : Schematic} :
    build settings text = .ok schematic ↔
      ∃ document, readDocument settings text = .ok document ∧
        assemble (context settings document) = .ok schematic :=
  bind_ok_iff

theorem assemble_ok_iff {context : Placement.Context} {schematic : Schematic} :
    assemble context = .ok schematic ↔
      hasDuplicateLabels context.document.info = false ∧
      ∃ compiled, Placement.grid context = .ok compiled ∧
        schematic = .ofGrid context.document.tiles.height context.document.tiles.width
          (tags context.document.info) compiled := by
  dsimp only [assemble]
  cases hasDuplicateLabels context.document.info with
  | true => simp
  | false =>
    simp only [Bool.false_eq_true, if_false, true_and, bind_ok_iff, mapError_ok_iff,
      Except.ok.injEq]
    constructor
    · rintro ⟨compiled, placed, same⟩
      exact ⟨compiled, placed, same.symm⟩
    · rintro ⟨compiled, placed, same⟩
      exact ⟨compiled, placed, same.symm⟩

theorem build_of_read {settings : Settings} {text : String} {document : Document}
    (read : readDocument settings text = .ok document) :
    build settings text = assemble (context settings document) := by
  rw [build, read]
  rfl

theorem build_of_unread {settings : Settings} {text : String} {problem : BuildError}
    (unread : readDocument settings text = .error problem) :
    build settings text = .error problem := by
  rw [build, unread]
  rfl

/-- A build fails with the error of a grid that cannot be placed, or before blocks are placed. -/
theorem build_error {settings : Settings} {text : String} {problem : BuildError}
    (failure : build settings text = .error problem) :
    (∃ document cause, readDocument settings text = .ok document ∧
      Placement.grid (context settings document) = .error cause ∧ problem = .placement cause) ∨
    ∀ cause, problem ≠ .placement cause := by
  rcases bind_error_iff.mp failure with reading | ⟨document, read, assembled⟩
  · refine .inr ?_
    rintro cause rfl
    exact readDocument_ne_placement reading
  · dsimp only [assemble] at assembled
    split at assembled
    · cases assembled
      exact .inr (by simp)
    · rcases bind_error_iff.mp assembled with placing | ⟨_, _, impossible⟩
      · obtain ⟨cause, failed, rfl⟩ := mapError_error_iff.mp placing
        exact .inl ⟨document, cause, read, failed, rfl⟩
      · cases impossible

/-- Settings that accept every value and know of two blocks. -/
def plainSettings : Settings where
  base := Path.here
  catalog := {
    name := none
    items := .empty
    blocks := .ofList [("router", 0), ("micro-processor", 1)]
    liquids := .empty
    units := .empty }
  glyphs := .empty
  schema := .bool true
  validator := .standard
  compiler := noCompiler
  codec := .standard
  files := .empty

theorem readDocument_plain (document : Document) :
    readDocument plainSettings document.encode.compact = .ok document := by
  rw [readDocument_of_valid (parseSource_encode_compact document) rfl, recovers_document.back]
  rfl

/-- The text of a document is built without reading it character by character. -/
theorem build_plain (document : Document) :
    build plainSettings document.encode.compact = assemble (context plainSettings document) :=
  build_of_read (readDocument_plain document)

/-- The declaration of a cell is substituted where it stands. -/
theorem get?_context_blocks (settings : Settings) (document : Document) (cell : String) :
    (context settings document).document.tiles.blocks.get? cell =
      (document.tiles.blocks.get? cell).map
        (Template.substituteBlock (Template.finalTable (constants settings document) document)) :=
  OrderedMap.get?_mapValues _ document.tiles.blocks cell

end Build

end Blueprint
