import Blueprint.Proofs.Build.Precedence
import Blueprint.Proofs.Document.RoundTrip
import Blueprint.Proofs.Template.Bare
import Blueprint.Proofs.Template.Document

/-!
The tags of a built schematic. Name, description and labels come first, as they are after
substitution, and the tags of the document replace or follow them as they are written.
-/

namespace Blueprint

open Template (ConstantTable finalTable substitute)

/-- The tags that a document gives itself, word for word. -/
def Info.authoredTags (info : Info) : OrderedMap String := info.tags.getD .empty

/-- The tags that every schematic has. -/
def Schematic.ownTags : List String := ["name", "description", "labels"]

/-- A schematic has the tags of a document whose text refers to the given constants. -/
structure Schematic.Tagged (schematic : Schematic) (table : ConstantTable) (document : Document) :
    Prop where
  keys : schematic.tags.keys = ownTags ++ document.info.authoredTags.keys.removeAll ownTags
  once : schematic.tags.keys.Nodup
  authored : ∀ key value, document.info.authoredTags.get? key = some value →
    schematic.tags.get? key = some value
  name : "name" ∉ document.info.authoredTags.keys →
    schematic.tags.get? "name" = some (substitute table document.info.name)
  described : "description" ∉ document.info.authoredTags.keys →
    ∀ text, document.info.description = some text →
      schematic.tags.get? "description" = some
        (substitute (table.insert "name" (.text (substitute table document.info.name))) text)
  undescribed : "description" ∉ document.info.authoredTags.keys →
    document.info.description = none → schematic.tags.get? "description" = some ""
  /-- Labels are not given twice, so those of the document always become the tag. -/
  labelled : ∀ labels, document.info.labels = some labels →
    "labels" ∉ document.info.authoredTags.keys ∧
    ∃ text, schematic.tags.get? "labels" = some text ∧ Json.read text =
      .ok (.array (labels.map fun label => .string (substitute (finalTable table document) label)))
  unlabelled : "labels" ∉ document.info.authoredTags.keys →
    document.info.labels = none → schematic.tags.get? "labels" = some "[]"
  /-- The labels of the model are not the labels of the document. -/
  modelLabels : schematic.labels = []

namespace Build

variable {settings : Settings} {info : Info} {document : Document} {key : String}

/-! ### Authored tags over those of the schematic -/

/-- What the tags of the schematic are as long as no authored tag replaces them. -/
def ownEntries (info : Info) : List (String × String) := [
  ("name", info.name),
  ("description", info.description.getD ""),
  ("labels", (Json.ofStrings (info.labels.getD [])).compact)]

theorem ownEntries_distinct (info : Info) : ((ownEntries info).map Prod.fst).Nodup := by
  change ["name", "description", "labels"].Nodup
  decide

theorem tags_eq (info : Info) :
    tags info = (OrderedMap.ofList (ownEntries info)).insertAll info.authoredTags.entries := by
  have authored : (info.tags.map OrderedMap.entries).getD [] = info.authoredTags.entries := by
    unfold Info.authoredTags
    cases info.tags <;> rfl
  unfold tags
  rw [authored]
  exact List.foldl_append

theorem keys_tags (info : Info) : (tags info).keys =
    Schematic.ownTags ++ info.authoredTags.keys.removeAll Schematic.ownTags := by
  rw [tags_eq, OrderedMap.keys_insertAll, OrderedMap.ofList_of_nodup (ownEntries_distinct info)]
  exact OrderedMap.eraseDups_append_of_nodup (ownEntries_distinct info) info.authoredTags.distinct

theorem get?_tags (info : Info) (key : String) :
    (tags info).get? key = (info.authoredTags.get? key).or ((ownEntries info).lookup key) := by
  rw [tags_eq, OrderedMap.get?_insertAll, OrderedMap.lookup_reverse info.authoredTags.distinct,
    OrderedMap.ofList_of_nodup (ownEntries_distinct info)]
  rfl

theorem get?_tags_own (absent : key ∉ info.authoredTags.keys) :
    (tags info).get? key = (ownEntries info).lookup key := by
  have unlisted : info.authoredTags.get? key = none := by
    rw [← Option.not_isSome_iff_eq_none]
    exact mt OrderedMap.contains_iff_mem_keys.mp absent
  rw [get?_tags, unlisted, Option.none_or]

/-! ### The parts of the document behind the tags -/

/-- An empty description becomes none, and its tag is empty as well. -/
theorem resolvedDescription_getD {table : ConstantTable} {text : String}
    (described : document.info.description = some text) :
    (Template.resolvedDescription table document).getD "" =
      substitute (Template.tableWithName table document) text := by
  by_cases empty : text = ""
  · subst empty
    have blank : document.info.description.getD "" = "" := by rw [described, Option.getD_some]
    have free : '$' ∉ "".toList := by decide
    rw [Template.resolvedDescription_none blank, Template.substitute_of_free free]
    rfl
  · rw [Template.resolvedDescription_some described empty, Option.getD_some]

theorem resolvedDescription_getD_none {table : ConstantTable}
    (undescribed : document.info.description = none) :
    (Template.resolvedDescription table document).getD "" = "" := by
  rw [Template.resolvedDescription, undescribed]
  rfl

theorem context_labels (settings : Settings) (document : Document) :
    (context settings document).document.info.labels = document.info.labels.map
      (·.map (substitute (finalTable (constants settings document) document))) :=
  rfl

/-- A list of texts is read back from its JSON form. -/
theorem read_texts (texts : List String) :
    Json.read (Json.ofStrings texts).compact = .ok (.array (texts.map .string)) :=
  Json.read_compact (Json.legible_ofStrings _ texts)

theorem untagged_of_labels {labels : List String} (once : ¬info.LabelledTwice)
    (given : info.labels = some labels) : "labels" ∉ info.authoredTags.keys := by
  unfold Info.authoredTags
  cases authored : info.tags with
  | none => exact List.not_mem_nil
  | some tags =>
    intro listed
    apply once
    exact ⟨by rw [given, Option.isSome_some], tags, authored, listed⟩

/-! ### The tags of a schematic -/

theorem tagged_ofGrid (once : ¬document.info.LabelledTwice) (height width : Nat)
    (compiled : List (List (Option Tile))) :
    (Schematic.ofGrid height width (tags (context settings document).document.info)
      compiled).Tagged (constants settings document) document := by
  have own : ∀ key, key ∉ document.info.authoredTags.keys →
      (tags (context settings document).document.info).get? key =
        (ownEntries (context settings document).document.info).lookup key :=
    fun key absent => get?_tags_own absent
  refine ⟨keys_tags _, OrderedMap.distinct _, ?_, ?_, ?_, ?_, ?_, ?_, rfl⟩
  · intro key value authored
    refine (get?_tags _ key).trans ?_
    rw [Option.or_eq_some_iff]
    exact .inl authored
  · intro absent
    exact own "name" absent
  · intro absent text described
    refine (own "description" absent).trans ?_
    exact congrArg some (resolvedDescription_getD described)
  · intro absent undescribed
    refine (own "description" absent).trans ?_
    exact congrArg some (resolvedDescription_getD_none undescribed)
  · intro labels given
    have absent := untagged_of_labels once given
    refine ⟨absent, _, own "labels" absent, ?_⟩
    rw [context_labels, given, Option.map_some, Option.getD_some, read_texts, List.map_map]
    rfl
  · intro absent unlabelled
    refine (own "labels" absent).trans ?_
    rw [ownEntries, context_labels, unlabelled]
    rfl

/-- The document of a successful build does not have two sources of labels. -/
theorem tagged_of_build {text : String} {schematic : Schematic}
    (success : build settings text = .ok schematic) :
    ∃ document, readDocument settings text = .ok document ∧
      schematic.Tagged (constants settings document) document := by
  obtain ⟨document, read, assembled⟩ := build_ok_iff.mp success
  obtain ⟨single, compiled, _, rfl⟩ := assemble_ok_iff.mp assembled
  have once : ¬document.info.LabelledTwice := by
    rw [← hasDuplicateLabels_iff, single]
    exact Bool.false_ne_true
  exact ⟨document, read, tagged_ofGrid once _ _ compiled⟩

end Build

/-- A schematic that was built, with the standard codec or with any other, has the tags of its
document. -/
theorem built_schematics_tagged {settings : Settings} {text : String} {schematic : Schematic}
    (success : build settings text = .ok schematic) :
    ∃ document, Build.readDocument settings text = .ok document ∧
      schematic.Tagged (Build.constants settings document) document :=
  Build.tagged_of_build success

/-- A document whose tags replace the description and add two, one of which looks like a
reference, and whose labels have quotes and references. -/
def titledDocument : Document where
  info := {
    name := "Relay $(version)"
    description := some "of $(name)"
    labels := some ["a \"b\"", "v$(version)"]
    authors := []
    version := "2"
    tags := some (.ofList [("planet", "$(name)"), ("description", "custom"), ("sector", "")]) }
  tiles := ⟨[["r"]], .ofList [("r", ⟨"router", none, none, none⟩)], .empty⟩
  consts := .empty

def titledText : String := titledDocument.encode.compact

theorem titled_tags : (build Build.plainSettings titledText).toOption.map (·.tags.entries) =
    some [("name", "Relay 2"), ("description", "custom"),
      ("labels", "[\"a \\\"b\\\"\",\"v2\"]"), ("planet", "$(name)"), ("sector", "")] := by
  rw [titledText, Build.build_plain]
  decide +kernel

theorem built_schematics_tagged_titled : ∃ schematic document,
    build Build.plainSettings titledText = .ok schematic ∧
    schematic.tags.keys = ["name", "description", "labels", "planet", "sector"] ∧
    Build.readDocument Build.plainSettings titledText = .ok document ∧
    schematic.Tagged (Build.constants Build.plainSettings document) document := by
  obtain ⟨schematic, success, entries⟩ := Option.map_eq_some_iff.mp titled_tags
  have built := Traversal.ok_of_toOption success
  obtain ⟨document, read, tagged⟩ := built_schematics_tagged built
  have listed : schematic.tags.keys = ["name", "description", "labels", "planet", "sector"] := by
    rw [OrderedMap.keys, entries]
    rfl
  exact ⟨schematic, document, built, listed, read, tagged⟩

end Blueprint
