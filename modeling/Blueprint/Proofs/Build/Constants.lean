import Blueprint.Proofs.Build.Conformance
import Blueprint.Proofs.Build.Precedence
import Blueprint.Proofs.Document.Constants
import Blueprint.Proofs.Document.RoundTrip
import Blueprint.Proofs.Placement.Constants
import Blueprint.Proofs.Template.Unreferenced

/-!
When constants make no difference. Text can only see them through dollar signs and programs only
through the compiler, so a document without either is built alike with all constants, its own ones
and the glyphs, whatever their names and values are.
-/

namespace Blueprint

open Template (ConstantTable GlyphTable)

namespace Build

/-- Another text stands for the same as a text but for the constants of the document. -/
inductive ReplacesConstants (settings : Settings) (text : String) : String → Prop where
  | unchanged : ReplacesConstants settings text text
  /-- Both texts are documents that satisfy the schema, whatever it asks of constants. -/
  | read {other document consts} (before : Reads settings text document)
    (after : Reads settings other { document with consts := consts }) :
    ReplacesConstants settings text other
  /-- Both texts are objects with constants as in the schema of documents. The rest of them need not
  be a document. -/
  | written {other first second} (bundled : settings.ChecksBundled)
    (before : parseSource text = .ok (.object first))
    (after : parseSource other = .ok (.object second)) (same : Json.SameButConstants first second) :
    ReplacesConstants settings text other

variable {settings : Settings} {text other : String} {document : Document}

/-- Both texts lead to the same document but for the constants, or to the same error. -/
theorem ReplacesConstants.readDocument_cases (replaces : ReplacesConstants settings text other) :
    (∃ problem, readDocument settings text = .error problem ∧
      readDocument settings other = .error problem) ∨
    ∃ document consts, readDocument settings text = .ok document ∧
      readDocument settings other = .ok { document with consts := consts } := by
  cases replaces with
  | unchanged =>
    cases read : readDocument settings text with
    | error problem => exact .inl ⟨problem, rfl, rfl⟩
    | ok document => exact .inr ⟨document, document.consts, rfl, rfl⟩
  | read before after =>
    exact .inr ⟨_, _, readDocument_ok_iff.mpr before, readDocument_ok_iff.mpr after⟩
  | written bundled before after same =>
    obtain ⟨consts, decoded⟩ := Document.decode_constants same
    have sameFinding := congrArg (Option.map Violation.finding) (Schema.violation?_constants same)
    rw [readDocument_of_parsed before, readDocument_of_parsed after, validate_bundled bundled,
      validate_bundled bundled, Schema.finding?, Schema.finding?, sameFinding, decoded]
    cases (Schema.bundled.violation? (.object _)).map Violation.finding with
    | some finding => exact .inl ⟨_, rfl, rfl⟩
    | none =>
      cases Document.decode (.object _) with
      | error problem => exact .inl ⟨_, rfl, rfl⟩
      | ok document => exact .inr ⟨document, consts, rfl, rfl⟩

/-! ### Documents that constants do not reach -/

theorem context_of_free (free : document.DollarFree) (settings : Settings) :
    context settings document = {
      document := document.withoutBlank
      catalog := settings.catalog
      shop := {
        files := settings.files
        base := settings.base
        compiler := settings.compiler
        constants := Template.finalTable (constants settings document) document }
      codec := settings.codec } := by
  dsimp only [context]
  rw [Template.substituteDocument_of_free free]

theorem context_withConstants (free : document.DollarFree) (settings : Settings)
    (glyphs : GlyphTable) (consts : OrderedMap Constant) : ∃ table,
    context { settings with glyphs := glyphs } { document with consts := consts } =
      (context settings document).withConstants consts table := by
  have stillFree : { document with consts := consts }.DollarFree :=
    ⟨free.name, free.description, free.labels, free.cells, free.ids, free.values⟩
  rw [context_of_free free, context_of_free stillFree]
  exact ⟨_, rfl⟩

theorem assemble_withConstants {context : Placement.Context}
    (uncompiled : ¬context.document.RunsSource) (consts : OrderedMap Constant)
    (table : ConstantTable) :
    assemble (context.withConstants consts table) = assemble context := by
  dsimp only [assemble]
  rw [Placement.grid_constants uncompiled, context.withConstants_info,
    context.withConstants_tiles]

theorem build_replaced (unreached : ∀ document, Reads settings text document →
      document.DollarFree ∧ ¬document.RunsSource)
    (replaces : ReplacesConstants settings text other) (glyphs : GlyphTable) :
    build { settings with glyphs := glyphs } other = build settings text := by
  -- Reading does not look at the glyphs.
  have sameReader : readDocument { settings with glyphs := glyphs } other =
      readDocument settings other := rfl
  rcases replaces.readDocument_cases with ⟨problem, failed, alsoFailed⟩ |
    ⟨document, consts, read, alsoRead⟩
  · rw [build_of_unread failed, build_of_unread (sameReader.trans alsoFailed)]
  · obtain ⟨free, uncompiled⟩ := unreached document (readDocument_ok_iff.mp read)
    obtain ⟨table, same⟩ := context_withConstants free settings glyphs consts
    have compiles : ¬(context settings document).document.RunsSource := by
      rw [context_of_free free]
      exact uncompiled
    rw [build_of_read read, build_of_read (sameReader.trans alsoRead), same,
      assemble_withConstants compiles]

end Build

open Build

/-- If a text is read as a document without dollar signs, and no block on the grid runs a file with
source code, then the build ends alike, with a schematic or an error, for every table of glyphs and
all other constants, whatever the codec is. Substitution itself leaves every document without dollar signs as it is but for
an empty description, with all tables of constants. -/
theorem unreferenced_constants_ignored (settings : Settings) (text : String)
    (unreached : ∀ document, Reads settings text document →
      document.DollarFree ∧ ¬document.RunsSource) :
    (∀ document : Document, document.DollarFree → ∀ table,
      Template.substituteDocument table document = document.withoutBlank) ∧
    ∀ glyphs other, ReplacesConstants settings text other →
      build { settings with glyphs := glyphs } other = build settings text :=
  ⟨fun _ free => Template.substituteDocument_of_free free,
    fun glyphs _ replaces => build_replaced unreached replaces glyphs⟩

/-- A processor that runs a file beside a router. Dollar signs stand only where text is not
substituted, and the block that runs source code is not placed. -/
def unreferencingDocument : Document where
  info := ⟨"plain", some "", some ["a"], ["$name"], "$(p)", some (.ofList [("note", "$p")])⟩
  tiles := {
    grid := [["p", "r", ""]]
    blocks := .ofList [
      ("p", ⟨"micro-processor", some ["$r"], some ⟨"program", "main"⟩, none⟩),
      ("r", ⟨"router", none, some ⟨"string", "text"⟩, some 1⟩),
      ("spare", ⟨"micro-processor", none, some ⟨"program", "source"⟩, none⟩)]
    programs := .ofList [("main", .path "main.mlog"), ("source", .path "absent.mlogx")] }
  consts := .ofList [("p", .text "$(name)")]

/-- The document with constants whose names stand in every text, or look like references. -/
def replacedDocument : Document :=
  { unreferencingDocument with
    consts := .ofList [("", .text "$"), ("$", .list ["p", "r"]), ("plain", .text "")] }

def mlogSettings : Settings :=
  { sorterSettings with
    catalog := { sorterSettings.catalog with
      blocks := .ofList [("router", 0), ("micro-processor", 1)] }
    files := .inFolder [] [([Text.utf8 "main.mlog"], .file (.text "end"))] }

/-- Glyphs with the same kinds of names. -/
def oddGlyphs : GlyphTable := .ofList [("", "$()"), ("$", "?"), ("router", "sorter")]

theorem unreferencing_free : unreferencingDocument.DollarFree where
  name := by decide
  description := by
    rintro text ⟨⟩
    decide
  labels := by
    rintro labels ⟨⟩
    decide
  cells := by decide
  ids := by decide
  values := by
    intro entry member config configured
    have listed : entry ∈ [
      ("p", (⟨"micro-processor", some ["$r"], some ⟨"program", "main"⟩, none⟩ : BlockDecl)),
      ("r", ⟨"router", none, some ⟨"string", "text"⟩, some 1⟩),
      ("spare", ⟨"micro-processor", none, some ⟨"program", "source"⟩, none⟩)] := member
    simp only [List.mem_cons, List.not_mem_nil, or_false] at listed
    rcases listed with rfl | rfl | rfl
    all_goals
      cases configured
      decide

theorem unreferencing_uncompiled : ¬unreferencingDocument.RunsSource := by
  rintro ⟨cell, inside, named, block, declared, name, ⟨configured, _⟩, path, found, source⟩
  have listed : cell ∈ ["p", "r", ""] := inside
  simp only [List.mem_cons, List.not_mem_nil, or_false] at listed
  rcases listed with rfl | rfl | rfl
  · cases declared
    cases configured
    cases found
    exact absurd source (by decide)
  · cases declared
    simp at configured
  · exact named rfl

theorem unreferencing_unreached (document : Document)
    (read : Reads mlogSettings unreferencingDocument.encode.compact document) :
    document.DollarFree ∧ ¬document.RunsSource := by
  obtain ⟨value, _, parsed, _, _, decoded⟩ := read
  rw [parseSource_encode_compact] at parsed
  cases parsed
  cases decoded.symm.trans (recovers_document.back unreferencingDocument)
  exact ⟨unreferencing_free, unreferencing_uncompiled⟩

theorem unreferencing_replaced : ReplacesConstants mlogSettings
    unreferencingDocument.encode.compact replacedDocument.encode.compact :=
  .written sorterSettings_checksBundled (parseSource_encode_compact _)
    (parseSource_encode_compact _)
    ⟨rfl, Schema.listsConstants_encode _ _ _, Schema.listsConstants_encode _ _ _⟩

theorem unreferenced_constants_ignored_odd :
    (build { mlogSettings with glyphs := oddGlyphs }
        replacedDocument.encode.compact).toOption.map Schematic.tiles =
      some [⟨"micro-processor", 0, 0, .bytes [1, 0, 0, 0, 3, 101, 110, 100, 0, 0, 0, 0], 0⟩,
        ⟨"router", 1, 0, .string "text", 1⟩] := by
  obtain ⟨_, same⟩ := unreferenced_constants_ignored mlogSettings _ unreferencing_unreached
  rw [same oddGlyphs _ unreferencing_replaced]
  have chars : unreferencingDocument.encode.compact.toList = _ := String.toList_ofList
  unfold build Build.readDocument parseSource Json.read
  rw [chars]
  decide +kernel

end Blueprint
