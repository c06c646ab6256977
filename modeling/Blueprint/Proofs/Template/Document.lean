import Blueprint.Proofs.Template.Table
import Blueprint.Template.Document
import Mathlib.Data.List.Forall2
import Mathlib.Data.Option.Basic

/-!
What substitution makes of a document and of the constants, part by part. The name is replaced with
the constants as they come, the description with those that have the finished name, and labels,
cells and declarations with those that have both. The parts determine the whole.
-/

namespace Blueprint.Template

variable {table final : ConstantTable} {document result : Document}

/-! ### What happens to the parts -/

/-- Every text is replaced where it stands. -/
def TextsReplaced (table : ConstantTable) : List String → List String → Prop :=
  List.Forall₂ fun before after => after = substitute table before

/-- Only the value changes. -/
structure ConfigReplaced (table : ConstantTable) (before after : ConfigDecl) : Prop where
  value : after.value = substitute table before.value
  kind : after.kind = before.kind

/-- Only the id and the value of the configuration change. -/
structure BlockReplaced (table : ConstantTable) (before after : BlockDecl) : Prop where
  id : after.id = substitute table before.id
  config : Option.Rel (ConfigReplaced table) before.config after.config
  links : after.links = before.links
  rotation : after.rotation = before.rotation

/-- How a document and the constants change. An empty description counts as none. -/
structure Replaced (table : ConstantTable) (document : Document) (final : ConstantTable)
    (result : Document) : Prop where
  name : result.info.name = substitute table document.info.name
  undescribed : document.info.description.getD "" = "" → result.info.description = none
  described : ∀ text, document.info.description = some text → text ≠ "" →
    result.info.description =
      some (substitute (table.insert "name" (.text result.info.name)) text)
  nameKnown : result.info.description.getD "" = "" →
    final = table.insert "name" (.text result.info.name)
  bothKnown : ∀ text, result.info.description = some text → text ≠ "" →
    final = (table.insert "name" (.text result.info.name)).insert "description" (.text text)
  labels : Option.Rel (TextsReplaced final) document.info.labels result.info.labels
  cells : List.Forall₂ (TextsReplaced final) document.tiles.grid result.tiles.grid
  blocks : List.Forall₂ (fun before after => after.1 = before.1 ∧
    BlockReplaced final before.2 after.2) document.tiles.blocks.entries result.tiles.blocks.entries
  programs : result.tiles.programs = document.tiles.programs
  tags : result.info.tags = document.info.tags
  authors : result.info.authors = document.info.authors
  version : result.info.version = document.info.version
  consts : result.consts = document.consts

/-- Two tables differ at most in the name and the description: all other constants have the same
values in the same order. -/
structure OthersKept (table final : ConstantTable) : Prop where
  values : ∀ key, key ≠ "name" → key ≠ "description" → final.get? key = table.get? key
  order : (final.entries.filter fun entry => entry.1 ≠ "name" ∧ entry.1 ≠ "description") =
    table.entries.filter fun entry => entry.1 ≠ "name" ∧ entry.1 ≠ "description"

/-! ### Parts that are replaced one by one -/

theorem forall₂_iff_map {α β : Type} {R : α → β → Prop} {f : α → β}
    (agree : ∀ x y, R x y ↔ y = f x) {before : List α} {after : List β} :
    List.Forall₂ R before after ↔ after = before.map f := by
  constructor
  · intro related
    induction related with
    | nil => rfl
    | cons here _ ih => rw [(agree _ _).mp here, ih, List.map_cons]
  · rintro rfl
    rw [List.forall₂_map_right_iff, List.forall₂_same]
    exact fun x _ => (agree x (f x)).mpr rfl

theorem optionRel_iff_map {α β : Type} {R : α → β → Prop} {f : α → β}
    (agree : ∀ x y, R x y ↔ y = f x) {before : Option α} {after : Option β} :
    Option.Rel R before after ↔ after = before.map f := by
  constructor
  · rintro (related | _)
    · rw [(agree _ _).mp related, Option.map_some]
    · rfl
  · rintro rfl
    cases before with
    | none => exact .none
    | some value => exact .some ((agree _ _).mpr rfl)

theorem textsReplaced_iff (before after : List String) :
    TextsReplaced table before after ↔ after = before.map (substitute table) :=
  forall₂_iff_map fun _ _ => Iff.rfl

theorem configReplaced_iff (before after : ConfigDecl) :
    ConfigReplaced table before after ↔ after = substituteConfig table before := by
  constructor
  · intro replaced
    cases after
    rw [substituteConfig, ← replaced.value, ← replaced.kind]
  · rintro rfl
    exact ⟨rfl, rfl⟩

theorem blockReplaced_iff {before after : BlockDecl} :
    BlockReplaced table before after ↔ after = substituteBlock table before := by
  constructor
  · intro replaced
    have config := (optionRel_iff_map configReplaced_iff).mp replaced.config
    cases after
    rw [substituteBlock, ← replaced.id, ← config, ← replaced.links, ← replaced.rotation]
  · rintro rfl
    exact ⟨rfl, (optionRel_iff_map configReplaced_iff).mpr rfl, rfl, rfl⟩

theorem blocksReplaced_iff {before after : OrderedMap BlockDecl} :
    List.Forall₂ (fun x y => y.1 = x.1 ∧ BlockReplaced table x.2 y.2) before.entries after.entries ↔
      after = before.mapValues fun _ block => substituteBlock table block := by
  have pairs : ∀ x y : String × BlockDecl, y.1 = x.1 ∧ BlockReplaced table x.2 y.2 ↔
      y = (x.1, substituteBlock table x.2) := by
    intro x y
    rw [blockReplaced_iff, Prod.ext_iff]
  rw [forall₂_iff_map pairs]
  constructor
  · intro same
    cases after
    cases same
    rfl
  · rintro rfl
    rfl

/-! ### The constants -/

theorem resolvedDescription_none (empty : document.info.description.getD "" = "") :
    resolvedDescription table document = none := by
  unfold resolvedDescription
  cases described : document.info.description with
  | none => rfl
  | some text =>
    rw [described, Option.getD_some] at empty
    simp [empty]

theorem resolvedDescription_some {text : String}
    (described : document.info.description = some text) (nonempty : text ≠ "") :
    resolvedDescription table document = some (substitute (tableWithName table document) text) := by
  simp [resolvedDescription, described, nonempty]

theorem finalTable_name (empty : (resolvedDescription table document).getD "" = "") :
    finalTable table document = tableWithName table document := by
  unfold finalTable
  cases described : resolvedDescription table document with
  | none => rfl
  | some text =>
    rw [described, Option.getD_some] at empty
    rw [Option.filter_some_neg (by simpa using empty)]

theorem finalTable_both {text : String} (described : resolvedDescription table document = some text)
    (nonempty : text ≠ "") :
    finalTable table document =
      (tableWithName table document).insert "description" (.text text) := by
  rw [finalTable, described, Option.filter_some_pos (by simpa using nonempty)]

theorem OthersKept.insert {key : String} (kept : OthersKept table final)
    (special : key = "name" ∨ key = "description") (value : Constant) :
    OthersKept table (final.insert key value) where
  values other notName notDescription := by
    have different : other ≠ key := by
      rcases special with rfl | rfl
      · exact notName
      · exact notDescription
    rw [ConstantTable.get?_insert, if_neg different, kept.values other notName notDescription]
  order := by
    let ordinary (key : String) : Bool := decide (key ≠ "name" ∧ key ≠ "description")
    have out : ordinary key = false := by
      rcases special with rfl | rfl <;> decide
    rw [ConstantTable.filter_insert (p := ordinary) out, kept.order]

theorem othersKept_finalTable (table : ConstantTable) (document : Document) :
    OthersKept table (finalTable table document) := by
  have same : OthersKept table table := ⟨fun _ _ _ => rfl, rfl⟩
  have named : OthersKept table (tableWithName table document) := same.insert (.inl rfl) _
  unfold finalTable
  split
  · exact named.insert (.inr rfl) _
  · exact named

/-! ### The whole -/

theorem replaced_substituteDocument (table : ConstantTable) (document : Document) :
    Replaced table document (finalTable table document) (substituteDocument table document) where
  name := rfl
  undescribed := resolvedDescription_none
  described _ := resolvedDescription_some
  nameKnown := finalTable_name
  bothKnown _ := finalTable_both
  labels := (optionRel_iff_map textsReplaced_iff).mpr rfl
  cells := (forall₂_iff_map textsReplaced_iff).mpr rfl
  blocks := blocksReplaced_iff.mpr rfl
  programs := rfl
  tags := rfl
  authors := rfl
  version := rfl
  consts := rfl

theorem Replaced.description_eq (replaced : Replaced table document final result) :
    result.info.description = resolvedDescription table document := by
  by_cases empty : document.info.description.getD "" = ""
  · rw [replaced.undescribed empty, resolvedDescription_none empty]
  · cases described : document.info.description with
    | none => exact absurd (by rw [described]; rfl) empty
    | some text =>
      have nonempty : text ≠ "" := fun same => empty (by rw [described, same]; rfl)
      rw [replaced.described text described nonempty, replaced.name,
        resolvedDescription_some described nonempty]
      rfl

theorem Replaced.final_eq (replaced : Replaced table document final result) :
    final = finalTable table document := by
  have described := replaced.description_eq
  have named : table.insert "name" (.text result.info.name) = tableWithName table document := by
    rw [replaced.name]
    rfl
  by_cases empty : result.info.description.getD "" = ""
  · rw [replaced.nameKnown empty, named, finalTable_name (described ▸ empty)]
  · cases present : result.info.description with
    | none => exact absurd (by rw [present]; rfl) empty
    | some text =>
      have nonempty : text ≠ "" := fun same => empty (by rw [present, same]; rfl)
      rw [replaced.bothKnown text present nonempty, named,
        finalTable_both (described.symm.trans present) nonempty]

theorem Replaced.eq_substituteDocument (replaced : Replaced table document final result) :
    result = substituteDocument table document := by
  have description := replaced.description_eq
  have labels := (optionRel_iff_map textsReplaced_iff).mp replaced.labels
  have cells := (forall₂_iff_map textsReplaced_iff).mp replaced.cells
  have blocks := blocksReplaced_iff.mp replaced.blocks
  have written : substituteDocument table document =
      ⟨⟨substitute table document.info.name, resolvedDescription table document,
        document.info.labels.map (·.map (substitute (finalTable table document))),
        document.info.authors, document.info.version, document.info.tags⟩,
      ⟨document.tiles.grid.map (·.map (substitute (finalTable table document))),
        document.tiles.blocks.mapValues fun _ block =>
          substituteBlock (finalTable table document) block,
        document.tiles.programs⟩,
      document.consts⟩ := rfl
  rw [written, ← replaced.final_eq, ← replaced.name, ← description, ← labels, ← cells, ← blocks,
    ← replaced.programs, ← replaced.tags, ← replaced.authors, ← replaced.version,
    ← replaced.consts]

/-- Substitution throughout a document is the one change of document and constants in which every
part is replaced with the constants that are known to it and nothing else is touched. It leaves all
constants but the name and the description as they are, each name once and longer ones first. -/
theorem replaced_iff_substituteDocument (table : ConstantTable) (document : Document) :
    (∀ result final, Replaced table document final result ↔
      result = substituteDocument table document ∧ final = finalTable table document) ∧
    OthersKept table (finalTable table document) ∧
    ((finalTable table document).entries.map Prod.fst).Nodup ∧
    (finalTable table document).entries.Pairwise LongerOrEqual := by
  refine ⟨fun result final => ⟨fun replaced => ?_, ?_⟩, othersKept_finalTable table document,
    (finalTable table document).distinct, (finalTable table document).longestFirst⟩
  · exact ⟨replaced.eq_substituteDocument, replaced.final_eq⟩
  · rintro ⟨rfl, rfl⟩
    exact replaced_substituteDocument table document

end Blueprint.Template
