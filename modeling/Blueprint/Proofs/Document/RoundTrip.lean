import Blueprint.Document.Decode
import Blueprint.Document.Encode
import Blueprint.Document.SourceError
import Blueprint.Proofs.Json.RoundTrip
import Blueprint.Proofs.Traversal

/-!
Documents come back from their text as they were. The JSON form of a document is read back as every
shallow value is, and each part of a document is decoded from its own form.
-/

namespace Blueprint

open Traversal (mapM_ok_iff forM_ok_iff)

/-- Decoding gives back what is encoded, and only an absent value is null. -/
structure Decode.Recovers {α : Type} (decode : Decode α) (encode : α → Json) : Prop where
  back : ∀ value, decode (encode value) = .ok value
  notNull : ∀ value, encode value ≠ .null

open Decode (Recovers)

variable {α : Type} {decode : Decode α} {encode : α → Json}

/-! ### Decoding the forms of values -/

namespace Decode

theorem recovers_text : Recovers text Json.string := ⟨fun _ => rfl, fun _ => nofun⟩

theorem Recovers.list (item : Recovers decode encode) :
    Recovers (list decode) fun items => .array (items.map encode) where
  back items := by
    refine mapM_ok_iff.mpr ?_
    rw [List.forall₂_map_left_iff, List.forall₂_same]
    exact fun value _ => item.back value
  notNull _ := nofun

theorem recovers_texts : Recovers (Decode.list text) Json.ofStrings := recovers_text.list

/-- The keys of a map are different, so its entries are put back in their order. -/
theorem Recovers.map (value : Recovers decode encode) :
    Recovers (map decode) (OrderedMap.encode encode) where
  back map := by
    have read : (map.entries.map fun entry => (entry.1, encode entry.2)).mapM (member decode) =
        .ok map.entries := by
      rw [mapM_ok_iff, List.forall₂_map_left_iff, List.forall₂_same]
      intro entry _
      rw [member, value.back]
      rfl
    change (List.mapM (member decode) _ >>= _) = _
    rw [read]
    change Except.ok (OrderedMap.ofList map.entries) = _
    rw [OrderedMap.ofList_of_nodup map.distinct]
  notNull _ := nofun

theorem recovers_byte : Recovers byte fun value => Json.ofNat value.toNat where
  back value := by
    have small : (0 : Int) ≤ value.toNat ∧ (value.toNat : Int) < 256 := by
      have := value.toNat_lt
      omega
    rw [Json.ofNat, byte, if_pos small, Int.toNat_natCast, UInt8.ofNat_toNat]
  notNull _ := nofun

theorem optional_of_ne_null {value : Json} (notNull : value ≠ .null) :
    optional decode value = (decode value >>= fun result => .ok (some result)) := by
  cases value with
  | null => exact absurd rfl notNull
  | _ => rfl

theorem Recovers.optional (item : Recovers decode encode) (value : α) :
    optional decode (encode value) = .ok (some value) := by
  rw [optional_of_ne_null (item.notNull value), item.back]
  rfl

theorem either_first {type : String} {first second : Decode α} {value : Json} {result : α}
    (success : first value = .ok result) : either type first second value = .ok result := by
  rw [either, success]

theorem either_second {type : String} {first second : Decode α} {value : Json} {result : α}
    {problem : DecodeError} (failure : first value = .error problem)
    (success : second value = .ok result) : either type first second value = .ok result := by
  rw [either, failure, success]

theorem check_ok {value : Json} {result : α} (success : decode value = .ok result) :
    check decode value = .ok () := by
  rw [check, success]
  rfl

theorem Recovers.passes (item : Recovers decode encode) (value : α) :
    check decode (encode value) = .ok () :=
  check_ok (item.back value)

theorem Recovers.passes_optional (item : Recovers decode encode) (value : α) :
    check (Decode.optional decode) (encode value) = .ok () :=
  check_ok (item.optional value)

end Decode

/-! ### Records -/

namespace Fields

variable {record name : String} {position : Nat} {members : List (String × Json)} {value : Json}

theorem of_object {checks : List (String × Decode Unit)}
    (pass : ∀ entry ∈ members, ∃ check, checks.lookup entry.1 = some check ∧
      check entry.2 = .ok ()) :
    Fields.of record checks (.object members) = .ok (.named members) := by
  have all : (members.forM fun entry =>
      ((checks.lookup entry.1).getD fun _ => .ok ()) entry.2) = .ok () := by
    refine forM_ok_iff.mpr fun entry member => ?_
    obtain ⟨check, known, passed⟩ := pass entry member
    rw [known]
    exact passed
  change (List.forM members _ >>= _) = _
  rw [all]
  rfl

theorem required_named (found : (Json.object members).member? name = some value) :
    (named members).required position name decode = decode value := by
  change members.lookup name = some value at found
  rw [required, find?, found]

theorem withDefault_named (found : (Json.object members).member? name = some value) (default : α) :
    (named members).withDefault position name default decode = decode value := by
  change members.lookup name = some value at found
  rw [withDefault, find?, found]

theorem withDefault_optional (item : Recovers decode encode) {option : Option α}
    (found : (Json.object members).member? name = option.map encode) :
    (named members).withDefault position name none (Decode.optional decode) = .ok option := by
  cases option with
  | none =>
    change members.lookup name = none at found
    rw [withDefault, find?, found]
  | some value =>
    rw [withDefault_named found]
    exact item.optional value

end Fields

@[simp]
theorem Json.lookup_present (key other : String) (option : Option α) :
    (Json.present key encode option).lookup other =
      if other = key then option.map encode else none := by
  cases option with
  | none => simp [Json.present]
  | some value => exact OrderedMap.lookup_cons_if other key (encode value) []

/-! ### Decoding the parts of a document -/

theorem recovers_constant : Recovers Constant.decode Constant.encode where
  back constant := by
    cases constant with
    | text value => exact Decode.either_first rfl
    | list items =>
      refine Decode.either_second rfl ?_
      rw [Constant.encode, Decode.recovers_texts.back]
      rfl
  notNull constant := by cases constant <;> nofun

theorem recovers_program : Recovers Program.decode Program.encode where
  back program := by
    cases program with
    | lines code =>
      refine Decode.either_first ?_
      rw [Program.encode, Decode.recovers_texts.back]
      rfl
    | path relative => exact Decode.either_second rfl rfl
  notNull program := by cases program <;> nofun

theorem recovers_config : Recovers ConfigDecl.decode ConfigDecl.encode where
  back _ := rfl
  notNull _ := nofun

theorem recovers_block : Recovers BlockDecl.decode BlockDecl.encode where
  back block := by
    have id : block.encode.member? "id" = some (.string block.id) := rfl
    have links : block.encode.member? "links" = block.links.map Json.ofStrings := by
      simp [BlockDecl.encode, Json.member?, List.lookup_append, List.lookup_cons]
    have config : block.encode.member? "config" = block.config.map ConfigDecl.encode := by
      simp [BlockDecl.encode, Json.member?, List.lookup_append, List.lookup_cons]
    have rotation : block.encode.member? "rotation" =
        block.rotation.map fun quarter => Json.ofNat quarter.toNat := by
      simp [BlockDecl.encode, Json.member?, List.lookup_append, List.lookup_cons]
    rw [BlockDecl.decode, BlockDecl.encode, Fields.of_object ?_]
    · simp only [bind, Except.bind, Fields.required_named id,
        Fields.withDefault_optional Decode.recovers_texts links,
        Fields.withDefault_optional recovers_config config,
        Fields.withDefault_optional Decode.recovers_byte rotation]
      rfl
    · simp only [List.forall_mem_append, List.forall_mem_singleton, Json.forall_mem_present,
        List.lookup_cons, BEq.rfl, String.reduceBEq, Option.some.injEq, exists_eq_left',
        Decode.recovers_text.passes, Decode.recovers_texts.passes_optional,
        recovers_config.passes_optional, Decode.recovers_byte.passes_optional, implies_true,
        and_self]
  notNull _ := nofun

theorem recovers_info : Recovers Info.decode Info.encode where
  back info := by
    have name : info.encode.member? "name" = some (.string info.name) := rfl
    have description : info.encode.member? "description" = info.description.map Json.string := by
      simp [Info.encode, Json.member?, List.lookup_append, List.lookup_cons]
    have labels : info.encode.member? "labels" = info.labels.map Json.ofStrings := by
      simp [Info.encode, Json.member?, List.lookup_append, List.lookup_cons]
    have authors : info.encode.member? "authors" = some (.ofStrings info.authors) := by
      simp [Info.encode, Json.member?, List.lookup_append, List.lookup_cons]
    have version : info.encode.member? "version" = some (.string info.version) := by
      simp [Info.encode, Json.member?, List.lookup_append, List.lookup_cons]
    have tags : info.encode.member? "tags" = info.tags.map (OrderedMap.encode Json.string) := by
      simp [Info.encode, Json.member?, List.lookup_append, List.lookup_cons]
    rw [Info.decode, Info.encode, Fields.of_object ?_]
    · simp only [bind, Except.bind, Fields.required_named name,
        Fields.withDefault_optional Decode.recovers_text description,
        Fields.withDefault_optional Decode.recovers_texts labels, Fields.required_named authors,
        Fields.required_named version, Decode.recovers_texts.back, Decode.recovers_text.back,
        Fields.withDefault_optional Decode.recovers_text.map tags]
      rfl
    · simp only [List.forall_mem_append, List.forall_mem_singleton, List.forall_mem_cons,
        Json.forall_mem_present, List.lookup_cons, BEq.rfl, String.reduceBEq, Option.some.injEq,
        exists_eq_left', Decode.recovers_text.passes, Decode.recovers_text.passes_optional,
        Decode.recovers_texts.passes, Decode.recovers_texts.passes_optional,
        Decode.recovers_text.map.passes_optional, implies_true, and_self]
  notNull _ := nofun

theorem recovers_tiles : Recovers Tiles.decode Tiles.encode where
  back tiles := by
    have grid : tiles.encode.member? "grid" = some (.array (tiles.grid.map Json.ofStrings)) := rfl
    have blocks : tiles.encode.member? "blocks" = some (tiles.blocks.encode BlockDecl.encode) := rfl
    have programs : tiles.encode.member? "programs" =
        some (tiles.programs.encode Program.encode) := rfl
    rw [Tiles.decode, Tiles.encode, Fields.of_object ?_]
    · simp only [bind, Except.bind, Fields.required_named grid, Fields.required_named blocks,
        Fields.withDefault_named programs, Decode.recovers_texts.list.back,
        recovers_block.map.back, recovers_program.map.back]
      rfl
    · simp only [List.forall_mem_singleton, List.forall_mem_cons, List.lookup_cons, BEq.rfl,
        String.reduceBEq, Option.some.injEq, exists_eq_left', Decode.recovers_texts.list.passes,
        recovers_block.map.passes, recovers_program.map.passes, and_self]
  notNull _ := nofun

theorem document_passes (document : Document) :
    ∀ entry ∈ [("info", document.info.encode), ("tiles", document.tiles.encode),
      ("consts", document.consts.encode Constant.encode)],
      ∃ check, [("info", Decode.check Info.decode), ("tiles", Decode.check Tiles.decode),
        ("consts", Decode.check (Decode.map Constant.decode))].lookup entry.1 = some check ∧
          check entry.2 = .ok () := by
  simp only [List.forall_mem_singleton, List.forall_mem_cons, List.lookup_cons, BEq.rfl,
    String.reduceBEq, Option.some.injEq, exists_eq_left', recovers_info.passes,
    recovers_tiles.passes, recovers_constant.map.passes, and_self]

theorem recovers_document : Recovers Document.decode Document.encode where
  back document := by
    have info : document.encode.member? "info" = some document.info.encode := rfl
    have tiles : document.encode.member? "tiles" = some document.tiles.encode := rfl
    have consts : document.encode.member? "consts" =
        some (document.consts.encode Constant.encode) := rfl
    rw [Document.decode, Document.encode, Fields.of_object (document_passes document)]
    simp only [bind, Except.bind, Fields.required_named info, Fields.required_named tiles,
      Fields.withDefault_named consts, recovers_info.back, recovers_tiles.back,
      recovers_constant.map.back]
    rfl
  notNull _ := nofun

/-! ### The forms are shallow -/

namespace Json

theorem legible_ofStrings (depth : Nat) (items : List String) :
    Legible (depth + 1) (.ofStrings items) := by
  refine .array fun item listed => ?_
  obtain ⟨content, _, rfl⟩ := List.mem_map.mp listed
  exact .string depth content

theorem legible_map {depth : Nat} (map : OrderedMap α)
    (each : ∀ value, Legible depth (encode value)) : Legible (depth + 1) (map.encode encode) := by
  refine .object ?_ fun entry listed => ?_
  · rw [List.map_map]
    exact map.distinct
  · obtain ⟨original, _, rfl⟩ := List.mem_map.mp listed
    exact each original.2

theorem keys_present (key : String) (encode : α → Json) (option : Option α) :
    ((Json.present key encode option).map Prod.fst).Sublist [key] := by
  cases option with
  | none => exact List.nil_sublist [key]
  | some value => exact List.Sublist.refl [key]

theorem legible_constant (depth : Nat) (constant : Constant) :
    Legible (depth + 1) constant.encode := by
  cases constant with
  | text value => exact .string (depth + 1) value
  | list items => exact legible_ofStrings depth items

theorem legible_program (depth : Nat) (program : Program) :
    Legible (depth + 1) program.encode := by
  cases program with
  | lines code => exact legible_ofStrings depth code
  | path relative => exact .string (depth + 1) relative

theorem legible_config (depth : Nat) (config : ConfigDecl) : Legible (depth + 1) config.encode := by
  refine .object (by decide : ["type", "value"].Nodup) ?_
  simp only [List.forall_mem_singleton, List.forall_mem_cons]
  exact ⟨.string depth _, .string depth _⟩

theorem isWord_byte (value : UInt8) : IsWord value.toNat := by
  have small := value.toNat_lt
  have wide : 256 ≤ Word.count 64 := by decide
  constructor <;> omega

theorem legible_block (depth : Nat) (block : BlockDecl) : Legible (depth + 2) block.encode := by
  refine .object ?_ ?_
  · have keys : ["id", "links", "config", "rotation"].Nodup := by decide
    refine keys.sublist ?_
    simp only [List.map_append]
    exact (((List.Sublist.refl ["id"]).append (keys_present _ _ _)).append
      (keys_present _ _ _)).append (keys_present _ _ _)
  · simp only [List.forall_mem_append, List.forall_mem_singleton, forall_mem_present]
    exact ⟨⟨⟨.string _ _, fun links _ => legible_ofStrings _ links⟩,
      fun config _ => legible_config _ config⟩,
      fun rotation _ => .integer _ (isWord_byte rotation)⟩

theorem legible_info (depth : Nat) (info : Info) : Legible (depth + 2) info.encode := by
  refine .object ?_ ?_
  · have keys : ["name", "description", "labels", "authors", "version", "tags"].Nodup := by decide
    refine keys.sublist ?_
    simp only [List.map_append]
    exact ((((List.Sublist.refl ["name"]).append (keys_present _ _ _)).append
      (keys_present _ _ _)).append (List.Sublist.refl ["authors", "version"])).append
      (keys_present _ _ _)
  · simp only [List.forall_mem_append, List.forall_mem_singleton, List.forall_mem_cons,
      forall_mem_present]
    exact ⟨⟨⟨⟨.string _ _, fun description _ => .string _ description⟩,
      fun labels _ => legible_ofStrings _ labels⟩, legible_ofStrings _ _, .string _ _⟩,
      fun tags _ => legible_map tags (.string _)⟩

theorem legible_tiles (depth : Nat) (tiles : Tiles) : Legible (depth + 4) tiles.encode := by
  refine .object (by decide : ["grid", "blocks", "programs"].Nodup) ?_
  simp only [List.forall_mem_singleton, List.forall_mem_cons]
  refine ⟨.array fun row listed => ?_, legible_map _ (legible_block _),
    legible_map _ (legible_program _)⟩
  obtain ⟨names, _, rfl⟩ := List.mem_map.mp listed
  exact legible_ofStrings _ names

theorem legible_document (depth : Nat) (document : Document) :
    Legible (depth + 5) document.encode := by
  refine .object (by decide : ["info", "tiles", "consts"].Nodup) ?_
  simp only [List.forall_mem_singleton, List.forall_mem_cons]
  exact ⟨legible_info _ _, legible_tiles _ _, legible_map _ (legible_constant _)⟩

end Json

theorem parseSource_encode_compact (document : Document) :
    parseSource document.encode.compact = .ok document.encode := by
  have legible : Json.Legible Json.greatestDepth document.encode :=
    Json.legible_document 122 document
  rw [parseSource, Json.read_compact legible]
  rfl

/-- Every document is read back from its text in one line as it was. -/
theorem parseSource_compact_encode (document : Document) :
    parseSource document.encode.compact = .ok document.encode ∧
      Document.decode document.encode = .ok document := by
  have legible : Json.Legible Json.greatestDepth document.encode :=
    Json.legible_document 122 document
  refine ⟨?_, recovers_document.back document⟩
  rw [parseSource, Json.read_compact legible]
  rfl

end Blueprint
