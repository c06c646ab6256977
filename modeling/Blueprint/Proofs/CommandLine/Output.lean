import Blueprint.CommandLine.Run
import Blueprint.Proofs.Build.Starter
import Blueprint.Proofs.Build.Trace
import Blueprint.Proofs.Path
import Blueprint.Proofs.Schematic.Lossless

/-!
What a command leaves behind. A command that fails leaves all files as they were, and a build that
does not fail writes one file, which is the document only where a link leads from one to the other.
-/

namespace Blueprint.CommandLine

open FileTree (IsFileName)
open Text (shown utf8)
open Traversal

/-! ### The name of the written file -/

/-- The extension of schematics is in place of a final `.json` of a name, or behind the name. -/
def NamedAfter (document file : String) : Prop :=
  (∃ stem, document = stem ++ ".json" ∧ file = stem ++ ".msch.json") ∨
    (∀ stem, document ≠ stem ++ ".json") ∧ file = document ++ ".msch.json"

theorem outputName_namedAfter (name : String) : NamedAfter name (outputName name) := by
  have extension (stem : String) :
      stem ++ "." ++ Schematic.fileExtension = stem ++ ".msch.json" := by
    rw [String.append_assoc]
    rfl
  dsimp only [outputName]
  rw [extension]
  by_cases ends : documentExtension.toList <:+ name.toList
  · obtain ⟨stem, same⟩ := ends
    have whole : name = .ofList stem ++ ".json" := by
      rw [← String.toList_inj, String.toList_append, String.toList_ofList, ← same]
      rfl
    have cut : name.toList.take (name.toList.length - documentExtension.length) = stem := by
      rw [← same]
      refine List.take_left' ?_
      rw [List.length_append, String.length_toList, Nat.add_sub_cancel]
    rw [if_pos (List.isSuffixOf_iff_suffix.mpr ⟨stem, same⟩), cut]
    exact .inl ⟨.ofList stem, whole, rfl⟩
  · rw [if_neg (mt List.isSuffixOf_iff_suffix.mp ends), String.ofList_toList]
    refine .inr ⟨?_, rfl⟩
    rintro stem rfl
    exact ends ⟨stem.toList, by rw [String.toList_append]; rfl⟩

example : ["a.json.json", "a.msch.json", "a", ".json"].map outputName =
    ["a.json.msch.json", "a.msch.msch.json", "a.msch.json", ".msch.json"] := by
  decide +kernel

theorem NamedAfter.ne {document file : String} (named : NamedAfter document file) :
    file ≠ document := by
  intro same
  have lengths := congrArg String.length same
  rcases named with ⟨stem, rfl, rfl⟩ | ⟨_, rfl⟩
  · rw [String.length_append, String.length_append] at lengths
    exact absurd (Nat.add_left_cancel lengths) (by decide)
  · rw [String.length_append] at lengths
    exact absurd (Nat.add_eq_left.mp lengths) (by decide)

theorem NamedAfter.free {document file : String} (named : NamedAfter document file)
    (free : '/' ∉ document.toList) : '/' ∉ file.toList := by
  rcases named with ⟨stem, rfl, rfl⟩ | ⟨_, rfl⟩
  · rw [String.toList_append, List.mem_append, not_or] at free ⊢
    exact ⟨free.1, by decide⟩
  · rw [String.toList_append, List.mem_append, not_or]
    exact ⟨free, by decide⟩

/-! ### The path of the written file -/

/-- One path names a file in the folder of another one, after the name of that one. A name that is
no text is taken for the text that it is shown as. -/
structure Beside (files : FileTree) (document output : Path) : Prop where
  folder : ∃ folder name file, files.Reaches document folder name ∧
    files.Reaches output folder (utf8 file) ∧ NamedAfter (shown name) file
  ne : output ≠ document

theorem NamedAfter.isFileName {document file : String} (named : NamedAfter document file) :
    IsFileName (utf8 file) := by
  have long : 9 ≤ file.length := by
    rcases named with ⟨stem, _, rfl⟩ | ⟨_, rfl⟩ <;>
    · rw [String.length_append]
      exact Nat.le_add_left _ _
  have other (short : String) (small : short.length < 9) : utf8 file ≠ utf8 short := by
    intro same
    rw [Text.utf8_injective same] at long
    exact absurd small (Nat.not_lt.mpr long)
  exact ⟨other "" (by decide), other "." (by decide), other ".." (by decide)⟩

theorem slash_notMem_utf8 {file : String} (free : '/' ∉ file.toList) : Path.slash ∉ utf8 file :=
  fun member => free (Text.mem_of_mem_utf8 (by decide) member)

theorem slash_notMem_shown {name : Name} (free : Path.slash ∉ name) : '/' ∉ (shown name).toList :=
  fun member => free (Text.mem_of_mem_shown (by decide) (by decide) member)

/-- The default output is beside the document. -/
theorem beside_default {files : FileTree} {input : Path} {source : String}
    (read : files.readText input = .ok source) : Beside files input (defaultOutput input) := by
  obtain ⟨folder, name, reaches⟩ := FileTree.reaches_of_readText read
  have named := outputName_namedAfter (shown name)
  have free := slash_notMem_utf8 (named.free (slash_notMem_shown (Path.free_of_reaches reaches)))
  obtain ⟨called, beside⟩ := Path.withFileName_beside reaches named.isFileName free
  have chosen : defaultOutput input = input.withFileName (utf8 (outputName (shown name))) := by
    rw [defaultOutput, called, Option.getD_some]
  rw [chosen]
  refine ⟨⟨folder, name, _, reaches, beside, named⟩, fun same => named.ne ?_⟩
  rw [same] at beside
  have sameName : name = utf8 (outputName (shown name)) := (reaches.unique beside).2
  exact ((congrArg shown sameName).trans (Text.shown_utf8 _)).symm

/-! ### Commands -/

/-- A text is the JSON form of a schematic on several lines with the end of a line behind it. It is
read as this form, and no other schematic has it. -/
structure IsFileOf (schematic : Schematic) (content : String) : Prop where
  text : content = schematic.encode.indented ++ "\n"
  reads : schematic.Addressable → Json.read content = .ok schematic.encode
  only : ∀ other : Schematic, content = other.encode.indented ++ "\n" → other = schematic

theorem fileText_indented (schematic : Schematic) :
    schematic.fileText .indented = schematic.encode.indented ++ "\n" := String.ofList_append

theorem isFileOf_fileText (schematic : Schematic) :
    IsFileOf schematic (schematic.fileText .indented) where
  text := fileText_indented schematic
  reads := Schematic.read_fileText Json.Layout.blank_indented
  only other same := by
    rw [← fileText_indented other] at same
    exact (Schematic.fileText_injective Json.Layout.blank_indented same).symm

/-- A build has gone through all of its stages. It has printed the schematic that the document is
built to, and has written the file of this schematic to its output. -/
structure Completes (validator : Validator) (files : FileTree) (request : BuildRequest)
    (outcome : Outcome) (source : String) (schematic : Schematic) (content : String) : Prop where
  built : ∃ settings, prepare validator files request = .ok (source, settings) ∧
    build settings source = .ok schematic
  printed : outcome.output = schematic.summary
  file : IsFileOf schematic content
  delivered : files.Delivered outcome.files (outputOf request) content

variable {validator : Validator} {files : FileTree} {request : BuildRequest}
  {arguments : List Raw}

theorem readText_of_prepare {source : String} {settings : Settings}
    (prepared : prepare validator files request = .ok (source, settings)) :
    files.readText request.input = .ok source := by
  obtain ⟨text, read, rest⟩ := bind_ok_iff.mp prepared
  obtain ⟨_, _, same⟩ := bind_ok_iff.mp rest
  cases same
  exact mapError_ok_iff.mp read

theorem runBuild_of_built {source : String} {settings : Settings} {schematic : Schematic}
    (prepared : prepare validator files request = .ok (source, settings))
    (built : build settings source = .ok schematic) :
    runBuild validator files request =
      finishBuild files request (Traced.build settings source).events schematic := by
  rw [runBuild, prepared]
  simp only [Traced.build_result, built]

/-- A build fails and leaves the files alone, or it succeeds in all that it does. -/
theorem runBuild_cases (validator : Validator) (files : FileTree) (request : BuildRequest) :
    ((runBuild validator files request).code = 1 ∧
      (runBuild validator files request).files = files) ∨
    (runBuild validator files request).code = 0 ∧ ∃ source schematic content,
      Completes validator files request (runBuild validator files request) source schematic
        content := by
  cases prepared : prepare validator files request with
  | error problem =>
    left
    rw [runBuild, prepared]
    exact ⟨rfl, rfl⟩
  | ok result =>
    obtain ⟨source, settings⟩ := result
    cases built : build settings source with
    | error problem =>
      left
      rw [runBuild, prepared]
      simp only [Traced.build_result, built]
      exact ⟨rfl, rfl⟩
    | ok schematic =>
      rw [runBuild_of_built prepared built, finishBuild]
      cases written : files.write (outputOf request) (schematic.fileText .indented) with
      | error problem => exact .inl ⟨rfl, rfl⟩
      | ok after =>
        exact .inr ⟨rfl, source, schematic, _, ⟨settings, prepared, built⟩, rfl,
          isFileOf_fileText schematic, FileTree.delivered_of_write written⟩

theorem runInit_failed {request : InitRequest} (failed : (runInit files request).code ≠ 0) :
    (runInit files request).files = files := by
  unfold runInit at failed ⊢
  cases written : files.write request.output (starterText request) with
  | error problem => rfl
  | ok after =>
    rw [written] at failed
    exact absurd rfl failed

theorem run_failed (failed : (run validator files arguments).code ≠ 0) :
    (run validator files arguments).files = files := by
  unfold run at failed ⊢
  cases asked : readRequest arguments with
  | error halt => cases halt <;> rfl
  | ok request =>
    rw [asked] at failed
    obtain ⟨verbosity, command⟩ := request
    cases command with
    | init request => exact runInit_failed failed
    | build request =>
      rcases runBuild_cases validator files request with ⟨_, same⟩ | ⟨success, _⟩
      · exact same
      · exact absurd success failed

/-- What a build that ends with zero has done to its document, where no output was asked for. -/
theorem Completes.unnamed {outcome : Outcome} {source : String} {schematic : Schematic}
    {content : String}
    (completes : Completes validator files request outcome source schematic content)
    (unnamed : request.output = none) :
    Beside files request.input (outputOf request) ∧
      (¬files.OneFile (outputOf request) request.input →
        outcome.files.readText request.input = .ok source) ∧
      (files.OneFile (outputOf request) request.input →
        outcome.files.readText request.input = .ok content) := by
  obtain ⟨settings, prepared, _⟩ := completes.built
  have read := readText_of_prepare prepared
  have output : outputOf request = defaultOutput request.input := by
    rw [outputOf, unnamed, Option.getD_none]
  refine ⟨?_, completes.delivered.document read⟩
  rw [output]
  exact beside_default read

/-- A run that ends with a code other than zero leaves all files as they were. A build that ends
with zero has written the file of the schematic that it printed, to its output and nowhere else.
Unless the output is given, it is a path beside the document, named after it. Then the document
still reads as before, except where the two paths lead to one file. -/
theorem run_writes_once_or_never (validator : Validator) (files : FileTree)
    (arguments : List Raw) :
    ((run validator files arguments).code ≠ 0 → (run validator files arguments).files = files) ∧
    ∀ verbosity request, readRequest arguments = .ok ⟨verbosity, .build request⟩ →
      (run validator files arguments).code = 0 → ∃ source schematic content,
        Completes validator files request (run validator files arguments) source schematic
          content ∧
        (request.output = none → Beside files request.input (outputOf request) ∧
          (¬files.OneFile (outputOf request) request.input →
            (run validator files arguments).files.readText request.input = .ok source) ∧
          (files.OneFile (outputOf request) request.input →
            (run validator files arguments).files.readText request.input = .ok content)) := by
  refine ⟨run_failed, fun verbosity request asked success => ?_⟩
  have ran : run validator files arguments =
      runRequest validator files ⟨verbosity, .build request⟩ := by
    rw [run, asked]
  rw [ran] at success ⊢
  rcases runBuild_cases validator files request with ⟨failed, _⟩ | ⟨_, source, schematic, content,
    completes⟩
  · exact absurd (failed.symm.trans success) (by decide)
  -- Filtering the events changes nothing else.
  · have filtered : Completes validator files request
        (runRequest validator files ⟨verbosity, .build request⟩) source schematic content :=
      ⟨completes.built, completes.printed, completes.file, completes.delivered⟩
    exact ⟨source, schematic, content, filtered, filtered.unnamed⟩

/-! ### Builds of the document to start from -/

/-- A schematic file begins with another key than the document to start from. -/
theorem fileText_ne_starterText (schematic : Schematic) (request : InitRequest) :
    schematic.fileText .indented ≠ starterText request := by
  intro same
  have texts := congrArg String.toList same
  rw [Schematic.fileText, starterText, Json.indented, String.toList_append, String.toList_ofList,
    String.toList_ofList] at texts
  have letter : some 'h' = some '$' := congrArg (fun chars => chars[5]?) texts
  exact absurd letter (by decide)

/-- A plain build of a document to start from fails at most at writing the file. -/
theorem run_starter {verbosity : Verbosity} {input : Path} {output : Option Path}
    {init : InitRequest}
    (asked : readRequest arguments =
      .ok ⟨verbosity, .build ⟨input, output, none, none, none⟩⟩)
    (read : files.readText input = .ok (starterText init)) :
    ∃ schematic : Schematic, ∀ after,
      files.write (output.getD (defaultOutput input)) (schematic.fileText .indented) = .ok after →
      (run .standard files arguments).code = 0 ∧ (run .standard files arguments).files = after := by
  let chosen : Settings := { Settings.standard with base := baseOf input, files }
  have prepared : prepare .standard files ⟨input, output, none, none, none⟩ =
      .ok (starterText init, chosen) := by
    rw [prepare, readSource, read]
    rfl
  obtain ⟨schematic, built⟩ : ∃ schematic, build chosen (starterText init) = .ok schematic :=
    ⟨_, Starter.build_indented chosen init.name init.description init.authors
      Settings.standard_checksBundled Catalog.bundled_has_router_and_power_node.1⟩
  refine ⟨schematic, fun after written => ?_⟩
  rw [run, asked]
  simp only [runRequest, runCommand, runBuild_of_built prepared built, finishBuild, outputOf, written]
  exact ⟨trivial, trivial⟩

section Single

variable (text content : String)

/-- One file with a text. -/
def singleFile : FileTree := .inFolder [] [([utf8 "new.json"], .file (.text text))]

/-- The file with a link to it, which has the name of the default output. -/
def linkedFile : FileTree :=
  (singleFile text).insert [utf8 "new.msch.json"] (.link (utf8 "new.json"))

/-- The file and a device. -/
def fileAndDevice : FileTree := (singleFile text).add [utf8 "dev", utf8 "null"] .sink

theorem readText_singleFile : (singleFile text).readText (utf8 "new.json") = .ok text :=
  FileTree.readText_ok_iff.mpr ⟨_, FileTree.locate_arrived rfl rfl, .inl rfl⟩

theorem locate_singleFile : (singleFile text).locate .writing (utf8 "new.msch.json") =
    .ok [utf8 "new.msch.json"] :=
  FileTree.locate_arrived rfl rfl

theorem nodeAt?_singleFile : (singleFile text).nodeAt? [utf8 "new.msch.json"] = none := rfl

theorem missing_singleFile :
    (singleFile text).locate .reading (utf8 "new.msch.json") = .error .notFound := by
  rw [FileTree.locate, FileTree.follow]
  rfl

theorem write_singleFile : (singleFile text).write (utf8 "new.msch.json") content =
    .ok ((singleFile text).add [utf8 "new.msch.json"] (.file (.text content))) := by
  rw [FileTree.write, locate_singleFile]
  rfl

theorem readText_linkedFile : (linkedFile text).readText (utf8 "new.json") = .ok text :=
  FileTree.readText_ok_iff.mpr ⟨_, FileTree.locate_arrived rfl rfl, .inl rfl⟩

theorem locate_linkedFile :
    (linkedFile text).locate .writing (utf8 "new.msch.json") = .ok [utf8 "new.json"] :=
  FileTree.locate_link rfl rfl rfl

theorem write_linkedFile : (linkedFile text).write (utf8 "new.msch.json") content =
    .ok ((linkedFile text).setContent 1 (.text content)) := by
  rw [FileTree.write, locate_linkedFile]
  rfl

theorem readText_fileAndDevice : (fileAndDevice text).readText (utf8 "new.json") = .ok text :=
  FileTree.readText_ok_iff.mpr ⟨_, FileTree.locate_arrived rfl rfl, .inl rfl⟩

theorem locate_fileAndDevice :
    (fileAndDevice text).locate .writing (utf8 "/dev/null") = .ok [utf8 "dev", utf8 "null"] :=
  FileTree.locate_arrived rfl rfl

theorem write_fileAndDevice :
    (fileAndDevice text).write (utf8 "/dev/null") content = .ok (fileAndDevice text) := by
  rw [FileTree.write, locate_fileAndDevice]
  rfl

end Single

/-- `build new.json` -/
def plainBuild : List Raw := ["build", "new.json"].map utf8

theorem readRequest_plainBuild : readRequest plainBuild =
    .ok ⟨.normal, .build ⟨utf8 "new.json", none, none, none, none⟩⟩ := rfl

theorem defaultOutput_new : defaultOutput (utf8 "new.json") = utf8 "new.msch.json" := by
  decide +kernel

theorem run_nothing : (run .standard .empty plainBuild).code = 1 := by
  have nothing : FileTree.empty.readText (utf8 "new.json") = .error .notFound := by
    rw [FileTree.readText, FileTree.locate, FileTree.follow]
    rfl
  rw [run, readRequest_plainBuild]
  simp only [runRequest, runCommand, runBuild, prepare, readSource, nothing]
  rfl

/-- A build without its document fails. A build of the document to start from leaves it alone. -/
theorem run_writes_once_or_never_starter :
    let files := singleFile (starterText trickyRequest)
    ((run .standard .empty plainBuild).code = 1 ∧
      (run .standard .empty plainBuild).files = .empty) ∧
    (run .standard files plainBuild).code = 0 ∧ ∃ schematic content,
      IsFileOf schematic content ∧
      (run .standard files plainBuild).output = schematic.summary ∧
      Beside files (utf8 "new.json") (utf8 "new.msch.json") ∧
      (run .standard files plainBuild).files.readText (utf8 "new.msch.json") = .ok content ∧
      (run .standard files plainBuild).files.readText (utf8 "new.json") =
        .ok (starterText trickyRequest) := by
  intro files
  have read : files.readText (utf8 "new.json") = .ok (starterText trickyRequest) :=
    readText_singleFile _
  have output : outputOf ⟨utf8 "new.json", none, none, none, none⟩ = utf8 "new.msch.json" :=
    defaultOutput_new
  have success : (run .standard files plainBuild).code = 0 := by
    obtain ⟨schematic, ran⟩ := run_starter readRequest_plainBuild read
    rw [Option.getD_none, defaultOutput_new] at ran
    exact (ran _ (write_singleFile _ _)).1
  have unchanged := (run_writes_once_or_never .standard .empty plainBuild).1
    (run_nothing ▸ Nat.one_ne_zero)
  obtain ⟨source, schematic, content, completes, unnamed⟩ :=
    (run_writes_once_or_never .standard files plainBuild).2 _ _ readRequest_plainBuild success
  obtain ⟨beside, apart, _⟩ := unnamed rfl
  have delivered := completes.delivered
  rw [output] at beside apart delivered
  refine ⟨⟨run_nothing, unchanged⟩, success, schematic, content, completes.file,
    completes.printed, beside, ?_, ?_⟩
  · cases delivered with
    | written _ _ _ _ reads => exact reads
    | lost target located device _ =>
      cases (locate_singleFile _).symm.trans located
      cases (nodeAt?_singleFile _).symm.trans device
  · obtain ⟨settings, prepared, _⟩ := completes.built
    rw [← read, readText_of_prepare prepared]
    refine apart ?_
    rintro ⟨_, _, _, found, _⟩
    cases (missing_singleFile _).symm.trans found

/-- A link can lead from the default output to the document, which is overwritten then. Nothing is
written where the output is a device. The default output for a name that is no text does not keep
the bytes of this name. -/
theorem build_through_link_or_to_device :
    let linked := linkedFile (starterText trickyRequest)
    let both := fileAndDevice (starterText trickyRequest)
    let toDevice := plainBuild ++ ["-o", "/dev/null"].map utf8
    ((run .standard linked plainBuild).code = 0 ∧
      linked.readText (utf8 "new.json") = .ok (starterText trickyRequest) ∧
      (run .standard linked plainBuild).files.readText (utf8 "new.json") ≠
        .ok (starterText trickyRequest)) ∧
    ((run .standard both toDevice).code = 0 ∧ (run .standard both toDevice).files = both) ∧
    defaultOutput (0xFF :: utf8 ".json") ≠ 0xFF :: utf8 ".msch.json" := by
  intro linked both toDevice
  have asked : readRequest toDevice =
      .ok ⟨.normal, .build ⟨utf8 "new.json", some (utf8 "/dev/null"), none, none, none⟩⟩ := rfl
  obtain ⟨schematic, ran⟩ := run_starter readRequest_plainBuild (readText_linkedFile _)
  rw [Option.getD_none, defaultOutput_new] at ran
  obtain ⟨success, after⟩ := ran _ (write_linkedFile _ _)
  have overwritten : (run .standard linked plainBuild).files.readText (utf8 "new.json") =
      .ok (schematic.fileText .indented) := by
    rw [after]
    exact FileTree.readText_ok_iff.mpr ⟨_, FileTree.locate_arrived rfl rfl, .inl rfl⟩
  obtain ⟨_, ranDevice⟩ := run_starter asked (readText_fileAndDevice _)
  refine ⟨⟨success, readText_linkedFile _, fun same => ?_⟩, ranDevice _ (write_fileAndDevice _ _),
    by decide +kernel⟩
  exact fileText_ne_starterText schematic _ (Except.ok.inj (overwritten.symm.trans same))

end Blueprint.CommandLine
