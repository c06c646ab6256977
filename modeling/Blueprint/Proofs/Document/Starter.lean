import Blueprint.Document.Starter
import Blueprint.Proofs.Document.RoundTrip
import Blueprint.Proofs.Document.Validity

/-!
The document that a new schematic starts from. Its JSON form is the form of a typed document with
the address of the schema in front. Such a form is read back from its text, satisfies the schema
whenever its blocks do, and decodes to the document, as the address is no field of it.
-/

namespace Blueprint

/-! ### Forms with an address -/

/-- The form of a document with the address of its schema as the first member. -/
def Document.addressed (address : String) (document : Document) : Json :=
  .object [
    ("$schema", .string address),
    ("info", document.info.encode),
    ("tiles", document.tiles.encode),
    ("consts", document.consts.encode Constant.encode)]

namespace Fields

variable {α : Type} {record key name : String} {position : Nat} {value : Json}
  {members : List (String × Json)} {decode : Decode α}

/-- A member that is no field is not checked. -/
theorem of_unknown {checks : List (String × Decode Unit)} (unknown : checks.lookup key = none) :
    Fields.of record checks (.object ((key, value) :: members)) =
      (Fields.of record checks (.object members) >>= fun _ =>
        .ok (.named ((key, value) :: members))) := by
  change ((((checks.lookup key).getD fun _ => .ok ()) value >>= fun _ => members.forM _) >>= _) = _
  rw [unknown]
  change (members.forM _ >>= _) = ((members.forM _ >>= _) >>= _)
  cases members.forM fun entry => ((checks.lookup entry.1).getD fun _ => .ok ()) entry.2 <;> rfl

theorem required_behind (different : name ≠ key) :
    (named ((key, value) :: members)).required position name decode =
      (named members).required position name decode := by
  unfold required find?
  dsimp only
  rw [OrderedMap.lookup_cons_ne different]

theorem withDefault_behind (different : name ≠ key) (default : α) :
    (named ((key, value) :: members)).withDefault position name default decode =
      (named members).withDefault position name default decode := by
  unfold withDefault find?
  dsimp only
  rw [OrderedMap.lookup_cons_ne different]

end Fields

/-- The address is no field of a document. -/
theorem Document.decode_addressed (address : String) (document : Document) :
    Document.decode (document.addressed address) = .ok document := by
  have back := recovers_document.back document
  have passed := document_passes document
  -- The address is under no check and no name, so what is left is decoding the form without it.
  rw [Document.decode, Document.encode, Fields.of_object passed] at back
  rw [Document.decode, Document.addressed, Fields.of_unknown rfl,
    Fields.of_object passed]
  simp only [bind, Except.bind] at back ⊢
  rw [Fields.required_behind (by decide : "info" ≠ "$schema"),
    Fields.required_behind (by decide : "tiles" ≠ "$schema"),
    Fields.withDefault_behind (by decide : "consts" ≠ "$schema")]
  exact back

theorem Json.legible_addressed (depth : Nat) (address : String) (document : Document) :
    Legible (depth + 5) (document.addressed address) := by
  refine .object (by decide : ["$schema", "info", "tiles", "consts"].Nodup) ?_
  simp only [List.forall_mem_singleton, List.forall_mem_cons]
  exact ⟨.string _ address, legible_info _ _, legible_tiles _ _,
    legible_map _ (legible_constant _)⟩

theorem Rule.documentRule_accepts_addressed {more : Nat} {address : String}
    {document : Document} :
    documentRule.Accepts (Schema.bundled.follow (more + 1)) (document.addressed address) ↔
      ∀ entry ∈ document.tiles.blocks.entries, entry.2.Valid := by
  rw [documentRule, Document.addressed, record_accepts_object (by simp)]
  simp only [List.forall_mem_cons, List.not_mem_nil, false_implies, List.lookup_cons, BEq.rfl,
    String.reduceBEq, Option.some.injEq, exists_eq_left', text_accepts_string,
    infoRule_accepts_encode, tilesRule_accepts_encode, mapOf_accepts_encode,
    textOrTexts_accepts_constant, implies_true, and_true, true_and]

/-! ### The document to start from -/

namespace Starter

variable (name : String) (description authors : Option String)

/-- One router, with the name, description and authors that are given. -/
def typed : Document where
  info := ⟨name, some (description.getD standardDescription), none,
    authorList (authors.getD standardAuthors), "1.0.0", none⟩
  tiles := {
    grid := [["holyBlock"]]
    blocks := .ofList [("holyBlock", ⟨"router", none, none, none⟩)]
    programs := .empty }
  consts := .empty

theorem document_eq :
    document name description authors =
      (typed name description authors).addressed schemaAddress := by
  rfl

/-- What `init` writes is read back. -/
theorem parseSource_indented :
    parseSource ((document name description authors).indented ++ "\n") =
      .ok (document name description authors) := by
  have legible : Json.Legible Json.greatestDepth (document name description authors) := by
    rw [document_eq]
    exact Json.legible_addressed 122 _ _
  rw [parseSource, Json.read_indented legible]
  rfl

theorem valid :
    Schema.bundled.violation? (document name description authors) = none := by
  rw [Schema.bundled_accepts_iff, document_eq, Rule.documentRule_accepts_addressed]
  intro entry member
  cases List.mem_singleton.mp member
  exact ⟨nofun, nofun⟩

theorem decode_document :
    Document.decode (document name description authors) =
      .ok (typed name description authors) := by
  rw [document_eq, Document.decode_addressed]

end Starter

end Blueprint
