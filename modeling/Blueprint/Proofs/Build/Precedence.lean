import Blueprint.Proofs.Build.Stages
import Blueprint.Proofs.Build.Trace

/-!
Which stage of a build decides its outcome. A text is read as JSON, checked against the schema,
given its types, checked for two sources of labels and placed, and the first of these stages that
fails determines the error. What only later stages look at has no influence on it.
-/

namespace Blueprint

open Traversal

/-- A document has labels, perhaps none, and a tag of this name as well. -/
def Info.LabelledTwice (info : Info) : Prop :=
  info.labels.isSome ∧ ∃ tags, info.tags = some tags ∧ "labels" ∈ tags.keys

/-- Reports that the file of a program was read or goes through the compiler. -/
def Event.concernsProgram : Event → Bool
  | compiling _ => true
  | programRead _ _ => true
  | _ => false

namespace Build

/-- The stages up to the types pass on a text and lead to a document. -/
def Reads (settings : Settings) (text : String) (document : Document) : Prop :=
  ∃ value finding?, parseSource text = .ok value ∧
    settings.validator.compile settings.schema = .ok finding? ∧ finding? value = none ∧
    Document.decode value = .ok document

/-- The outcome of a build, by the first stage that fails. -/
inductive Ends (settings : Settings) (text : String) : Except BuildError Schematic → Prop where
  | unread {cause} (notJson : parseSource text = .error cause) :
    Ends settings text (.error (.json cause))
  | unusable {value problem} (parsed : parseSource text = .ok value)
    (noSchema : settings.validator.compile settings.schema = .error problem) :
    Ends settings text (.error (.badSchema problem))
  | invalid {value finding? finding} (parsed : parseSource text = .ok value)
    (compiled : settings.validator.compile settings.schema = .ok finding?)
    (violated : finding? value = some finding) :
    Ends settings text (.error (.violation finding))
  | untyped {value finding? cause} (parsed : parseSource text = .ok value)
    (compiled : settings.validator.compile settings.schema = .ok finding?)
    (valid : finding? value = none) (undecoded : Document.decode value = .error cause) :
    Ends settings text (.error (.untyped cause))
  | labelledTwice {document} (read : Reads settings text document)
    (twice : document.info.LabelledTwice) :
    Ends settings text (.error .duplicateLabels)
  | unplaced {document cause} (read : Reads settings text document)
    (once : ¬document.info.LabelledTwice)
    (failed : Placement.grid (context settings document) = .error cause) :
    Ends settings text (.error (.placement cause))
  | built {document compiled} (read : Reads settings text document)
    (once : ¬document.info.LabelledTwice)
    (placed : Placement.grid (context settings document) = .ok compiled) :
    Ends settings text (.ok (.ofGrid (context settings document).document.tiles.height
      (context settings document).document.tiles.width
      (tags (context settings document).document.info) compiled))

variable {settings other : Settings} {text : String} {document : Document}

/-! ### The stages one by one -/

theorem readDocument_ok_iff :
    readDocument settings text = .ok document ↔ Reads settings text document := by
  unfold readDocument Reads
  simp only [bind_ok_iff, mapError_ok_iff]
  constructor
  · rintro ⟨value, parsed, _, valid, decoded⟩
    obtain ⟨finding?, compiled, nothing⟩ := validate_ok_iff.mp valid
    exact ⟨value, finding?, parsed, compiled, nothing, decoded⟩
  · rintro ⟨value, finding?, parsed, compiled, nothing, decoded⟩
    exact ⟨value, parsed, (), validate_ok_iff.mpr ⟨finding?, compiled, nothing⟩, decoded⟩

/-- Substitution neither makes nor removes labels, and it leaves the tags alone. -/
theorem hasDuplicateLabels_iff :
    hasDuplicateLabels (context settings document).document.info = true ↔
      document.info.LabelledTwice := by
  change ((document.info.labels.map _).isSome && document.info.tags.any (·.contains "labels")) =
    true ↔ _
  rw [Option.isSome_map, Bool.and_eq_true, Option.any_eq_true]
  simp only [OrderedMap.contains_iff_mem_keys]
  rfl

theorem build_of_reads (read : Reads settings text document) :
    build settings text = assemble (context settings document) :=
  build_of_read (readDocument_ok_iff.mpr read)

/-- Each rule tells the outcome of the build. -/
theorem Ends.build_eq {outcome : Except BuildError Schematic} (ends : Ends settings text outcome) :
    build settings text = outcome := by
  cases ends with
  | unread notJson =>
    rw [build, readDocument, notJson]
    rfl
  | unusable parsed noSchema =>
    rw [build, readDocument_of_parsed parsed, validate, noSchema]
    rfl
  | invalid parsed compiled violated =>
    rw [build, readDocument_of_parsed parsed, validate_of_compiled compiled, violated]
    rfl
  | untyped parsed compiled valid undecoded =>
    rw [build, readDocument_of_valid parsed (validate_ok_iff.mpr ⟨_, compiled, valid⟩), undecoded]
    rfl
  | labelledTwice read twice =>
    rw [build_of_reads read]
    exact if_pos (hasDuplicateLabels_iff.mpr twice)
  | unplaced read once failed =>
    rw [build_of_reads read]
    refine (if_neg (mt hasDuplicateLabels_iff.mp once)).trans ?_
    rw [failed]
    rfl
  | built read once placed =>
    rw [build_of_reads read]
    refine (if_neg (mt hasDuplicateLabels_iff.mp once)).trans ?_
    rw [placed]
    rfl

/-- Some rule applies to every text. -/
theorem exists_ends (settings : Settings) (text : String) :
    ∃ outcome, Ends settings text outcome := by
  cases parsed : parseSource text with
  | error cause => exact ⟨_, .unread parsed⟩
  | ok value =>
    cases compiled : settings.validator.compile settings.schema with
    | error problem => exact ⟨_, .unusable parsed compiled⟩
    | ok finding? =>
      cases violated : finding? value with
      | some finding => exact ⟨_, .invalid parsed compiled violated⟩
      | none =>
        cases decoded : Document.decode value with
        | error cause => exact ⟨_, .untyped parsed compiled violated decoded⟩
        | ok document =>
          have read : Reads settings text document :=
            ⟨value, finding?, parsed, compiled, violated, decoded⟩
          by_cases twice : document.info.LabelledTwice
          · exact ⟨_, .labelledTwice read twice⟩
          · cases placed : Placement.grid (context settings document) with
            | error cause => exact ⟨_, .unplaced read twice placed⟩
            | ok compiled => exact ⟨_, .built read twice placed⟩

theorem build_eq_iff {outcome : Except BuildError Schematic} :
    build settings text = outcome ↔ Ends settings text outcome := by
  constructor
  · rintro rfl
    obtain ⟨outcome, ends⟩ := exists_ends settings text
    rw [ends.build_eq]
    exact ends
  · exact Ends.build_eq

theorem build_duplicateLabels_iff :
    build settings text = .error .duplicateLabels ↔
      ∃ document, Reads settings text document ∧ document.info.LabelledTwice := by
  rw [build_eq_iff]
  constructor
  · intro ends
    cases ends with
    | labelledTwice read twice => exact ⟨_, read, twice⟩
  · rintro ⟨document, read, twice⟩
    exact .labelledTwice read twice

/-! ### What a stage does not look at -/

/-- Two settings check documents in the same way. -/
def ChecksAlike (first second : Settings) : Prop :=
  second.validator.compile second.schema = first.validator.compile first.schema

theorem Reads.of_checksAlike (read : Reads settings text document)
    (alike : ChecksAlike settings other) : Reads other text document := by
  unfold Reads
  rw [alike]
  exact read

/-- Only placing looks at more of the settings than what checks the document. -/
theorem Ends.of_checksAlike {problem : BuildError} (ends : Ends settings text (.error problem))
    (early : ∀ cause, problem ≠ .placement cause) (alike : ChecksAlike settings other) :
    Ends other text (.error problem) := by
  cases ends with
  | unread notJson => exact .unread notJson
  | unusable parsed noSchema => exact .unusable parsed (alike.trans noSchema)
  | invalid parsed compiled violated => exact .invalid parsed (alike.trans compiled) violated
  | untyped parsed compiled valid undecoded =>
    exact .untyped parsed (alike.trans compiled) valid undecoded
  | labelledTwice read twice => exact .labelledTwice (read.of_checksAlike alike) twice
  | unplaced _ _ _ => exact absurd rfl (early _)

/-- Only labels stop a typed document before it is placed. -/
theorem hasDuplicateLabels_of_error {context : Placement.Context} {problem : BuildError}
    (failed : assemble context = .error problem) (early : ∀ cause, problem ≠ .placement cause) :
    hasDuplicateLabels context.document.info = true := by
  by_contra once
  have placing := (if_neg once).symm.trans failed
  cases placed : Placement.grid context with
  | ok compiled =>
    rw [placed] at placing
    cases placing
  | error cause =>
    rw [placed] at placing
    cases placing
    exact early cause rfl

/-- Whether a text is JSON does not depend on the settings at all. -/
theorem build_json_iff {cause : SourceError} :
    build settings text = .error (.json cause) ↔ parseSource text = .error cause := by
  rw [build_eq_iff]
  constructor
  · intro ends
    cases ends with
    | unread notJson => exact notJson
  · exact .unread

end Build

namespace Event

/-! ### What a build reports before it places blocks -/

theorem ofText_quiet (table : Template.ConstantTable) (text : String) :
    ∀ event ∈ ofText table text, event.concernsProgram = false := by
  intro event member
  obtain ⟨key, _, rfl⟩ := List.mem_map.mp member
  rfl

theorem ofBlock_quiet (table : Template.ConstantTable) (name : String) (block : BlockDecl) :
    ∀ event ∈ ofBlock table name block, event.concernsProgram = false := by
  unfold ofBlock
  simp only [List.forall_mem_append, List.forall_mem_singleton]
  refine ⟨⟨ofText_quiet table block.id, ?_⟩, rfl⟩
  cases block.config with
  | none => simp
  | some config => exact ofText_quiet table config.value

theorem ofDocument_quiet (table : Template.ConstantTable) (document : Document) :
    ∀ event ∈ ofDocument table document, event.concernsProgram = false := by
  unfold ofDocument
  simp only [List.forall_mem_append, List.forall_mem_flatMap]
  refine ⟨⟨⟨⟨?_, ?_⟩, ?_⟩, ?_⟩, ?_⟩
  · exact ofText_quiet table _
  · exact fun text _ => ofText_quiet _ text
  · exact fun text _ => ofText_quiet _ text
  · exact fun text _ => ofText_quiet _ text
  · exact fun entry _ => ofBlock_quiet _ entry.1 entry.2

end Event

/-- No program is read or compiled in a build that fails before it places blocks. -/
theorem Traced.build_quiet {settings : Settings} {text : String} {problem : BuildError}
    (failed : Blueprint.build settings text = .error problem)
    (early : ∀ cause, problem ≠ .placement cause) :
    ∀ event ∈ (build settings text).events, event.concernsProgram = false := by
  cases read : Build.readDocument settings text with
  | error cause =>
    rw [build, events_bind_error (by rw [result_quiet, read])]
    simp [quiet]
  | ok document =>
    have assembled : Build.assemble (Build.context settings document) = .error problem := by
      rw [← Build.build_of_reads (Build.readDocument_ok_iff.mp read), failed]
    have silent : (assemble (Build.context settings document)).events = [] := by
      rw [assemble]
      dsimp only
      rw [if_pos (Build.hasDuplicateLabels_of_error assembled early)]
      rfl
    have reported : (build settings text).events =
        .tableBuilt (Build.constants settings document).size ::
          Event.ofDocument (Build.constants settings document) document := by
      rw [build, events_bind_ok (by rw [result_quiet, read]), events_bind_ok (result_report _),
        silent, List.append_nil]
      rfl
    rw [reported, List.forall_mem_cons]
    exact ⟨rfl, Event.ofDocument_quiet _ document⟩

open Build

/-- The first stage that fails decides the outcome of a build, and without a failure there is a
schematic. Labels from two sources are an error exactly if the document as it is written has them
and the stages before find no fault. Errors before placing depend on nothing but the text and what
checks documents, and no program has been read or compiled then. The validator, the schema, the
compiler and the codec may be any. -/
theorem first_failure_decides (settings : Settings) (text : String) :
    (∀ outcome, build settings text = outcome ↔ Ends settings text outcome) ∧
    (build settings text = .error .duplicateLabels ↔
      ∃ document, Reads settings text document ∧ document.info.LabelledTwice) ∧
    (∀ cause other, build settings text = .error (.json cause) →
      build other text = .error (.json cause)) ∧
    ∀ problem, (∀ cause, problem ≠ .placement cause) → build settings text = .error problem →
      (∀ other : Settings, other.schema = settings.schema →
        other.validator = settings.validator → build other text = .error problem) ∧
      ∀ event ∈ (Traced.build settings text).events, event.concernsProgram = false := by
  refine ⟨fun outcome => build_eq_iff, build_duplicateLabels_iff, ?_, ?_⟩
  · intro cause other failed
    exact build_json_iff.mpr (build_json_iff.mp failed)
  · intro problem early failed
    refine ⟨fun other sameSchema sameValidator => ?_, Traced.build_quiet failed early⟩
    have alike : ChecksAlike settings other := by
      rw [ChecksAlike, sameSchema, sameValidator]
    exact ((build_eq_iff.mp failed).of_checksAlike early alike).build_eq

/-- A document with an empty list of labels, a tag for them, a cell that is not declared, and a
program that does not exist. -/
def labelledDocument : Document where
  info := ⟨"$(x)", none, some [], [], "1", some (.ofList [("labels", "[]")])⟩
  tiles := {
    grid := [["p", "q"]]
    blocks := .ofList [("p", ⟨"micro-processor", none, some ⟨"program", "main"⟩, none⟩)]
    programs := .ofList [("main", .path "absent.mlogx")] }
  consts := .empty

def labelledText : String := labelledDocument.encode.compact

theorem labelled_read :
    (readDocument plainSettings labelledText).toOption = some labelledDocument := by
  rw [labelledText, readDocument_plain]
  rfl

/-- Other settings with the schema that accepts every value, and a codec that refuses everything. -/
def otherSettings : Settings :=
  { Settings.standard with
    schema := .bool true
    base := Text.utf8 "elsewhere"
    codec := ⟨"none", fun _ _ => .error (.io "refused")⟩ }

theorem first_failure_decides_labelled :
    build plainSettings labelledText = .error .duplicateLabels ∧
    build otherSettings labelledText = .error .duplicateLabels ∧
    ∀ event ∈ (Traced.build plainSettings labelledText).events, event.concernsProgram = false := by
  have read := readDocument_ok_iff.mp (ok_of_toOption labelled_read)
  have twice : labelledDocument.info.LabelledTwice := ⟨rfl, _, rfl, by decide⟩
  obtain ⟨_, labels, _, early⟩ := first_failure_decides plainSettings labelledText
  have failed := labels.mpr ⟨labelledDocument, read, twice⟩
  obtain ⟨others, quiet⟩ := early .duplicateLabels (by simp) failed
  exact ⟨failed, others otherSettings rfl rfl, quiet⟩

end Blueprint
