import Blueprint.Proofs.Document.Fits

/-!
The parts of a document, each against its rule. The only integers are the rotations of blocks, so
they are where the flaws of a document are.
-/

namespace Blueprint

open Traversal

namespace Fits

variable {named : String → Check}

theorem byte : Fits named .rotationRule Decode.byte .double where
  clean accepted success x := by
    rcases Rule.number_of_accepts_rotation accepted with ⟨n, rfl, _⟩ | ⟨y, rfl⟩
    · simp [Flaw.double]
    · cases success
  reported accepted failure := by
    rcases Rule.number_of_accepts_rotation accepted with ⟨n, rfl, low, high⟩ | ⟨y, rfl⟩
    · have small : 0 ≤ n ∧ n < 256 := ⟨low, by omega⟩
      rw [Decode.byte, if_pos small] at failure
      cases failure
    · cases failure
      exact ⟨y, rfl, rfl⟩

theorem texts : Fits named .texts (Decode.list Decode.text) .never :=
  list text

theorem constant : Fits named .textOrTexts Constant.decode .never := by
  refine either fun accepted => ?_
  rcases Rule.text_or_texts_of_accepts accepted with single | several
  · exact Or.inl ((text.total single).bind fun _ => ⟨_, rfl⟩)
  · exact Or.inr ((texts.total several).bind fun _ => ⟨_, rfl⟩)

theorem program : Fits named .textOrTexts Program.decode .never := by
  refine either fun accepted => ?_
  rcases Rule.text_or_texts_of_accepts accepted with single | several
  · exact Or.inr ((text.total single).bind fun _ => ⟨_, rfl⟩)
  · exact Or.inl ((texts.total several).bind fun _ => ⟨_, rfl⟩)

theorem config : Fits named .configRule ConfigDecl.decode .never := by
  have kind : Fits named .configName (Decode.check Decode.text) .never :=
    text.check.weaken Rule.text_of_accepts_configName
  refine record_of_never ?_ ?_
  · simp only [List.forall_mem_cons]
    exact ⟨kind, text.check, by simp⟩
  · intro members present settled
    exact (settled.required rfl (present "type" (by simp)) 0).bind fun _ =>
      (settled.required rfl (present "value" (by simp)) 1).bind fun _ => ⟨_, rfl⟩

theorem block : Fits named .blockRule BlockDecl.decode .block := by
  refine record ?_ ?_
  · simp only [List.forall_mem_cons]
    exact ⟨text.check.elsewhere (by decide),
      texts.optional_of_never.check.elsewhere (by decide),
      config.optional_of_never.check.elsewhere (by decide),
      (byte.optional fun _ => nofun).check.here _, by simp⟩
  · intro members present settled
    exact (settled.required rfl (present "id" (by simp)) 0).bind fun _ =>
      (settled.withDefault rfl 1 none).bind fun _ =>
      (settled.withDefault rfl 2 none).bind fun _ =>
      (settled.withDefault rfl 3 none).bind fun _ => ⟨_, rfl⟩

theorem info : Fits named .infoRule Info.decode .never := by
  refine record_of_never ?_ ?_
  · simp only [List.forall_mem_cons]
    exact ⟨text.check, text.optional_of_never.check, texts.optional_of_never.check, texts.check,
      text.check, text.map_of_never.optional_of_never.check, by simp⟩
  · intro members present settled
    exact (settled.required rfl (present "name" (by simp)) 0).bind fun _ =>
      (settled.withDefault rfl 1 none).bind fun _ =>
      (settled.withDefault rfl 2 none).bind fun _ =>
      (settled.required rfl (present "authors" (by simp)) 3).bind fun _ =>
      (settled.required rfl (present "version" (by simp)) 4).bind fun _ =>
      (settled.withDefault rfl 5 none).bind fun _ => ⟨_, rfl⟩

/-- Blocks have a rule of their own, which the rule of the tiles refers to. -/
theorem reference (more : Nat) :
    Fits (Schema.bundled.follow (more + 1)) (.definition Rule.blockName) BlockDecl.decode
      .block where
  clean accepted := block.clean (Schema.blockName_accepts_iff.mp accepted)
  reported accepted := block.reported (Schema.blockName_accepts_iff.mp accepted)

theorem tiles (more : Nat) :
    Fits (Schema.bundled.follow (more + 1)) .tilesRule Tiles.decode .tiles := by
  refine record ?_ ?_
  · simp only [List.forall_mem_cons]
    exact ⟨(list texts).check.elsewhere (by decide), (reference more).map.check.here _,
      program.map_of_never.check.elsewhere (by decide), by simp⟩
  · intro members present settled
    exact (settled.required rfl (present "grid" (by simp)) 0).bind fun _ =>
      (settled.required rfl (present "blocks" (by simp)) 1).bind fun _ =>
      (settled.withDefault rfl 2 OrderedMap.empty).bind fun _ => ⟨_, rfl⟩

theorem document (more : Nat) :
    Fits (Schema.bundled.follow (more + 1)) .documentRule Document.decode .document := by
  refine record ?_ ?_
  · simp only [List.forall_mem_cons]
    exact ⟨ignored.elsewhere (by decide), info.check.elsewhere (by decide),
      (tiles more).check.here _, constant.map_of_never.check.elsewhere (by decide), by simp⟩
  · intro members present settled
    exact (settled.required rfl (present "info" (by simp)) 0).bind fun _ =>
      (settled.required rfl (present "tiles" (by simp)) 1).bind fun _ =>
      (settled.withDefault rfl 2 OrderedMap.empty).bind fun _ => ⟨_, rfl⟩

end Fits

/-- The rotation of a declared block is a number with a fraction or an exponent, or minus zero. -/
def Json.HasDoubleRotation (value : Json) (x : Decimal.Binary64) : Prop :=
  ∃ tiles blocks name block, value.Has "tiles" tiles ∧ tiles.Has "blocks" blocks ∧
    blocks.Has name block ∧ block.Has "rotation" (.number (.double x))

theorem Flaw.document_iff {value : Json} {x : Decimal.Binary64} :
    Flaw.document value x ↔ value.HasDoubleRotation x := by
  constructor
  · rintro ⟨_, tiles, inTiles, rfl, _, blocks, inBlocks, rfl, name, block, named, _, _, turned, rfl,
      rfl⟩
    exact ⟨tiles, blocks, name, block, inTiles, inBlocks, named, turned⟩
  · rintro ⟨tiles, blocks, name, block, inTiles, inBlocks, named, turned⟩
    exact ⟨_, tiles, inTiles, rfl, _, blocks, inBlocks, rfl, name, block, named, _, _, turned, rfl,
      rfl⟩

/-- A value that satisfies the schema is a document, or a double is reported that stands for one of
its rotations. -/
theorem document_or_double_rotation {value : Json}
    (valid : Schema.bundled.violation? value = none) :
    (∃ document, Document.decode value = .ok document) ∧ (¬∃ x, value.HasDoubleRotation x) ∨
    ∃ x, value.HasDoubleRotation x ∧ Document.decode value = .error (Flaw.error x) := by
  have accepted := Schema.bundled_accepts_iff.mp valid
  have fits := Fits.document value.depth
  cases decoded : Document.decode value with
  | ok document =>
    refine Or.inl ⟨⟨document, rfl⟩, ?_⟩
    rintro ⟨x, turned⟩
    exact fits.clean accepted decoded x (Flaw.document_iff.mpr turned)
  | error problem =>
    obtain ⟨x, flawed, rfl⟩ := fits.reported accepted decoded
    exact Or.inr ⟨x, Flaw.document_iff.mp flawed, rfl⟩

end Blueprint
