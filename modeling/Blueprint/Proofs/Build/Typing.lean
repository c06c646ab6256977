import Blueprint.Proofs.Build.Stages
import Blueprint.Proofs.Document.Typing

/-!
Builds that end in an error of the program itself, because a document that satisfies the schema has
no typed form.
-/

namespace Blueprint

open Traversal

namespace Build

variable {settings : Settings} {text : String} {value : Json}

/-- No later stage has a problem with types. -/
theorem assemble_ne_untyped {context : Placement.Context} {cause : DecodeError} :
    assemble context ≠ .error (.untyped cause) := by
  dsimp only [assemble]
  split
  · nofun
  · intro failure
    rcases bind_error_iff.mp failure with placing | ⟨_, _, impossible⟩
    · cases placed : Placement.grid context with
      | ok compiled =>
        rw [placed] at placing
        cases placing
      | error problem =>
        rw [placed] at placing
        cases placing
    · cases impossible

/-- A document that satisfies the schema has its typed form or is the fault of the program. -/
theorem build_untyped_iff (parsed : parseSource text = .ok value)
    (valid : validate settings.validator settings.schema value = .ok ()) {cause : DecodeError} :
    build settings text = .error (.untyped cause) ↔ Document.decode value = .error cause := by
  rw [build, readDocument_of_valid parsed valid]
  cases Document.decode value with
  | ok document =>
    constructor
    · exact fun failure => absurd failure assemble_ne_untyped
    · intro failure
      cases failure
  | error problem =>
    constructor
    · intro failure
      cases failure
      rfl
    · intro failure
      cases failure
      rfl

end Build

/-- A document that satisfies the schema has a typed form unless a rotation is a double, and then
the build ends in an error of the program, which names such a rotation. -/
theorem untyped_iff_double_rotation {settings : Settings} {text : String} {value : Json}
    (bundled : settings.ChecksBundled) (parsed : parseSource text = .ok value)
    (valid : Build.validate settings.validator settings.schema value = .ok ()) :
    ((∃ document, Document.decode value = .ok document) ↔ ¬∃ x, value.HasDoubleRotation x) ∧
    ((∃ cause, build settings text = .error (.untyped cause)) ↔ ∃ x, value.HasDoubleRotation x) ∧
    ∀ cause, build settings text = .error (.untyped cause) →
      ∃ x, value.HasDoubleRotation x ∧ cause = .wrongType (.number (.double x)) .byte := by
  simp only [Build.build_untyped_iff parsed valid]
  rw [Build.validate_bundled_ok_iff bundled] at valid
  rcases document_or_double_rotation valid with ⟨⟨document, decoded⟩, none⟩ | ⟨x, turned, decoded⟩
  · rw [decoded]
    exact ⟨⟨fun _ => none, fun _ => ⟨document, rfl⟩⟩,
      ⟨nofun, fun turned => absurd turned none⟩, nofun⟩
  · rw [decoded]
    refine ⟨⟨nofun, fun none => absurd ⟨x, turned⟩ none⟩,
      ⟨fun _ => ⟨x, turned⟩, fun _ => ⟨_, rfl⟩⟩, ?_⟩
    intro cause failure
    cases failure
    exact ⟨x, turned, rfl⟩

/-- A document with a block that is turned by a number with a point. -/
def roundText : String :=
  "\x7b\"info\":\x7b\"name\":\"n\",\"authors\":[],\"version\":\"1\"\x7d,\"tiles\":\x7b" ++
  "\"grid\":[[\"r\"]],\"blocks\":\x7b\"r\":\x7b\"id\":\"router\",\"rotation\":2.0\x7d\x7d\x7d\x7d"

def untyped? : Except BuildError α → Option DecodeError
  | .error (.untyped cause) => some cause
  | _ => none

theorem untyped?_eq_some_iff {outcome : Except BuildError α} {cause : DecodeError} :
    untyped? outcome = some cause ↔ outcome = .error (.untyped cause) := by
  cases outcome with
  | ok _ => simp [untyped?]
  | error problem => cases problem <;> simp [untyped?]

/-- The text is valid and yet there is no typed document. -/
theorem round_outcomes :
    ((parseSource roundText).toOption.map fun value => (Schema.bundled.violation? value).isNone) =
      some true ∧
    (untyped? (build Settings.standard roundText)).map DecodeError.message =
      some "invalid type: floating point `2.0`, expected u8" := by
  have chars : roundText.toList = _ ++ _ := String.toList_append.trans
    (congrArg₂ (· ++ ·) String.toList_ofList String.toList_ofList)
  unfold build Build.readDocument parseSource Json.read
  rw [chars]
  decide +kernel

theorem round_failed : ∃ cause, build Settings.standard roundText = .error (.untyped cause) ∧
    cause.message = "invalid type: floating point `2.0`, expected u8" := by
  obtain ⟨cause, failure, message⟩ := Option.map_eq_some_iff.mp round_outcomes.2
  exact ⟨cause, untyped?_eq_some_iff.mp failure, message⟩

theorem round_accepted : ∃ value, parseSource roundText = .ok value ∧
    Build.validate .standard Schema.bundledJson value = .ok () := by
  obtain ⟨value, parsed, valid⟩ := Option.map_eq_some_iff.mp round_outcomes.1
  exact ⟨value, ok_of_toOption parsed,
    (Build.validate_bundled_ok_iff Settings.standard_checksBundled).mpr
      (Option.isNone_iff_eq_none.mp valid)⟩

/-- Not every document that satisfies the schema has a typed form. -/
theorem valid_document_untyped : ∃ value cause, parseSource roundText = .ok value ∧
    Build.validate .standard Schema.bundledJson value = .ok () ∧
    build Settings.standard roundText = .error (.untyped cause) ∧
    (BuildError.untyped cause).message =
      "internal error: validated document did not deserialize: " ++
        "invalid type: floating point `2.0`, expected u8" := by
  obtain ⟨value, parsed, valid⟩ := round_accepted
  obtain ⟨cause, failed, message⟩ := round_failed
  refine ⟨value, cause, parsed, valid, failed, ?_⟩
  dsimp only [BuildError.message]
  rw [message]
  rfl

theorem untyped_iff_double_rotation_round : Settings.standard.ChecksBundled ∧
    ∃ value x, parseSource roundText = .ok value ∧
      Build.validate .standard Schema.bundledJson value = .ok () ∧ value.HasDoubleRotation x ∧
      build Settings.standard roundText =
        .error (.untyped (.wrongType (.number (.double x)) .byte)) := by
  obtain ⟨value, parsed, valid⟩ := round_accepted
  obtain ⟨cause, failed, _⟩ := round_failed
  obtain ⟨_, _, named⟩ :=
    untyped_iff_double_rotation Settings.standard_checksBundled parsed valid
  obtain ⟨x, turned, rfl⟩ := named cause failed
  exact ⟨Settings.standard_checksBundled, value, x, parsed, valid, turned, failed⟩

end Blueprint
