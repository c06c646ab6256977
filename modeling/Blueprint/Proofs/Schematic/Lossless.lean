import Blueprint.Proofs.Document.RoundTrip
import Blueprint.Proofs.Json.Unambiguous
import Blueprint.Proofs.Schematic.Base64
import Blueprint.Schematic.Encode

/-!
Schematic files lose nothing. Different schematics have different files, on one line as on several,
and both files of a schematic hold the same JSON value.
-/

namespace Blueprint

open Json (IsWord Plain)

/-! ### The JSON form of a schematic is its own -/

theorem Json.ofNat_injective : Function.Injective Json.ofNat := by
  intro m n same
  exact Int.ofNat.inj (Number.integer.inj (Json.number.inj same))

theorem Json.ofStrings_injective : Function.Injective Json.ofStrings := by
  intro items others same
  simp only [Json.ofStrings, Json.array.injEq] at same
  exact List.map_injective_iff.mpr (fun _ _ equal => Json.string.inj equal) same

theorem Json.present_injective (key : String) :
    Function.Injective (Json.present key (id : Json → Json)) := by
  intro option other same
  cases option with
  | none => cases other with
    | none => rfl
    | some value => cases same
  | some value => cases other with
    | none => cases same
    | some otherValue =>
      cases same
      rfl

theorem OrderedMap.encode_injective {V : Type} {encode : V → Json}
    (injective : Function.Injective encode) :
    Function.Injective (OrderedMap.encode encode) := by
  intro map other same
  simp only [OrderedMap.encode, Json.object.injEq] at same
  have entries : map.entries = other.entries := by
    refine List.map_injective_iff.mpr (fun entry otherEntry equal => ?_) same
    obtain ⟨key, value⟩ := Prod.mk.inj equal
    exact Prod.ext key (injective value)
  cases map
  cases other
  cases entries
  rfl

theorem Point.encode_injective : Function.Injective Point.encode := by
  intro point other same
  simp only [Point.encode, Json.object.injEq, List.cons.injEq, Prod.mk.injEq, Json.number.injEq,
    Number.integer.injEq, Int32.toInt_inj, true_and, and_true] at same
  cases point
  cases other
  exact (Point.mk.injEq ..).mpr same

theorem ContentKind.name_injective : Function.Injective ContentKind.name := by
  intro kind other same
  cases kind <;> cases other <;> first | rfl | exact absurd same (by decide)

/-- The type and the payload are a configuration, also where two variants have like payloads. -/
theorem BlockConfig.encode_injective : Function.Injective BlockConfig.encode := by
  intro config other same
  simp only [BlockConfig.encode, Json.object.injEq, List.cons.injEq, Prod.mk.injEq,
    Json.string.injEq, true_and] at same
  obtain ⟨type, members⟩ := same
  have payload := Json.present_injective "value" members
  cases config with
  | null => cases other with
    | null => rfl
    | _ => simp [BlockConfig.typeName] at type
  | content kind id => cases other with
    | content otherKind otherId =>
      simp only [BlockConfig.payload?, Option.some.injEq, Json.object.injEq, List.cons.injEq,
        Prod.mk.injEq, Json.string.injEq, true_and, and_true] at payload
      obtain ⟨name, _, number⟩ := payload
      cases ContentKind.name_injective name
      rw [UInt16.toNat_inj.mp (Json.ofNat_injective number)]
    | _ => simp [BlockConfig.typeName] at type
  | boolean value => cases other with
    | boolean otherValue =>
      cases payload
      rfl
    | _ => simp [BlockConfig.typeName] at type
  | point value => cases other with
    | point otherValue =>
      cases Point.encode_injective (Option.some.inj payload)
      rfl
    | _ => simp [BlockConfig.typeName] at type
  | pointArray points => cases other with
    | pointArray otherPoints =>
      have encoded := Json.array.inj (Option.some.inj payload)
      cases List.map_injective_iff.mpr Point.encode_injective encoded
      rfl
    | _ => simp [BlockConfig.typeName] at type
  | string value => cases other with
    | string otherValue =>
      cases payload
      rfl
    | _ => simp [BlockConfig.typeName] at type
  | bytes data => cases other with
    | bytes otherData =>
      have written := String.ofList_injective (Json.string.inj (Option.some.inj payload))
      cases Base64.encode_injective written
      rfl
    | _ => simp [BlockConfig.typeName] at type

theorem Tile.encode_injective : Function.Injective Tile.encode := by
  intro tile other same
  simp only [Tile.encode, Json.object.injEq, List.cons.injEq, Prod.mk.injEq, Json.string.injEq,
    true_and, and_true] at same
  obtain ⟨block, x, y, config, rotation⟩ := same
  cases tile
  cases other
  cases block
  cases Json.ofNat_injective x
  cases Json.ofNat_injective y
  cases BlockConfig.encode_injective config
  cases UInt8.toNat_inj.mp (Json.ofNat_injective rotation)
  rfl

theorem Schematic.encode_injective : Function.Injective Schematic.encode := by
  intro schematic other same
  simp only [Schematic.encode, Json.object.injEq, List.cons.injEq, Prod.mk.injEq, true_and,
    and_true] at same
  obtain ⟨height, width, version, tags, labels, tiles⟩ := same
  cases schematic
  cases other
  cases Json.ofNat_injective height
  cases Json.ofNat_injective width
  cases UInt8.toNat_inj.mp (Json.ofNat_injective version)
  cases OrderedMap.encode_injective (fun _ _ => Json.string.inj) tags
  cases Json.ofStrings_injective labels
  cases List.map_injective_iff.mpr Tile.encode_injective (Json.array.inj tiles)
  rfl

/-! ### What the form consists of -/

namespace Json

variable {allowed : Int → Prop}

theorem plain_ofStrings (depth : Nat) (items : List String) :
    Plain allowed (depth + 1) (.ofStrings items) := by
  refine .array fun item listed => ?_
  obtain ⟨content, _, rfl⟩ := List.mem_map.mp listed
  exact .string depth content

theorem plain_texts (depth : Nat) (map : OrderedMap String) :
    Plain allowed (depth + 1) (map.encode .string) := by
  refine .object ?_ fun entry listed => ?_
  · rw [List.map_map]
    exact map.distinct
  · obtain ⟨original, _, rfl⟩ := List.mem_map.mp listed
    exact .string depth original.2

/-- Numbers of at most 32 bits are words, with or without a sign. -/
theorem isWord_of_small {n : Int} (low : -2147483648 ≤ n) (high : n < 4294967296) : IsWord n := by
  have half : 2147483648 ≤ Word.count 63 := by decide
  have whole : 4294967296 ≤ Word.count 64 := by decide
  constructor <;> omega

/-- A coordinate is one of few integers. -/
theorem plain_point (words : ∀ n, IsWord n → allowed n) (depth : Nat) (point : Point) :
    Plain allowed (depth + 1) point.encode := by
  have coordinate (n : Int32) : allowed n.toInt := by
    have low := n.le_toInt
    have high := n.toInt_lt
    exact words _ (isWord_of_small low (by omega))
  refine .object (by decide : ["x", "y"].Nodup) ?_
  simp only [List.forall_mem_singleton, List.forall_mem_cons]
  exact ⟨.integer depth (coordinate point.x), .integer depth (coordinate point.y)⟩

theorem plain_payload (words : ∀ n, IsWord n → allowed n) (depth : Nat) {config : BlockConfig}
    {payload : Json} (present : config.payload? = some payload) :
    Plain allowed (depth + 2) payload := by
  cases config with
  | null => cases present
  | content kind id =>
    cases present
    have type : IsWord kind.typeId := by
      cases kind <;> exact isWord_of_small (by decide) (by decide)
    have number : IsWord id.toNat := by
      have small := id.toNat_lt
      exact isWord_of_small (by omega) (by omega)
    refine .object (by decide : ["kind", "type_id", "id"].Nodup) ?_
    simp only [List.forall_mem_singleton, List.forall_mem_cons]
    exact ⟨.string _ _, .integer _ (words _ type), .integer _ (words _ number)⟩
  | boolean value =>
    cases present
    exact .bool _ value
  | point value =>
    cases present
    exact plain_point words _ value
  | pointArray points =>
    cases present
    refine .array fun item listed => ?_
    obtain ⟨value, _, rfl⟩ := List.mem_map.mp listed
    exact plain_point words depth value
  | string value =>
    cases present
    exact .string _ value
  | bytes data =>
    cases present
    exact .string _ _

theorem plain_blockConfig (words : ∀ n, IsWord n → allowed n) (depth : Nat)
    (config : BlockConfig) : Plain allowed (depth + 3) config.encode := by
  refine .object ?_ ?_
  · have keys : ["type", "value"].Nodup := by decide
    exact keys.sublist ((keys_present "value" id config.payload?).cons_cons "type")
  · rw [List.forall_mem_cons, forall_mem_present]
    exact ⟨.string _ _, fun payload present => plain_payload words depth present⟩

theorem plain_tile (words : ∀ n, IsWord n → allowed n) (depth : Nat) {tile : Tile}
    (x : allowed tile.x) (y : allowed tile.y) : Plain allowed (depth + 4) tile.encode := by
  refine .object (by decide : ["block", "x", "y", "config", "rotation"].Nodup) ?_
  simp only [List.forall_mem_singleton, List.forall_mem_cons]
  exact ⟨.string _ _, .integer _ x, .integer _ y, plain_blockConfig words depth tile.config,
    .integer _ (words _ (isWord_byte tile.rotation))⟩

theorem plain_schematic (words : ∀ n, IsWord n → allowed n) (depth : Nat) {schematic : Schematic}
    (height : allowed schematic.height) (width : allowed schematic.width)
    (places : ∀ tile ∈ schematic.tiles, allowed tile.x ∧ allowed tile.y) :
    Plain allowed (depth + 6) schematic.encode := by
  refine .object
    (by decide : ["height", "width", "version", "tags", "labels", "tiles"].Nodup) ?_
  simp only [List.forall_mem_singleton, List.forall_mem_cons]
  refine ⟨.integer _ height, .integer _ width,
    .integer _ (words _ (isWord_byte schematic.version)), plain_texts _ schematic.tags,
    plain_ofStrings _ schematic.labels, .array fun item listed => ?_⟩
  obtain ⟨tile, member, rfl⟩ := List.mem_map.mp listed
  exact plain_tile words depth (places tile member).1 (places tile member).2

end Json

/-! ### Schematic files -/

namespace Schematic

/-- The size of a schematic and the positions of its tiles are words of 64 bits. -/
structure Addressable (schematic : Schematic) : Prop where
  height : schematic.height < Word.count 64
  width : schematic.width < Word.count 64
  places : ∀ tile ∈ schematic.tiles, tile.x < Word.count 64 ∧ tile.y < Word.count 64

theorem isWord_of_lt {n : Nat} (small : n < Word.count 64) : IsWord n := by
  constructor <;> omega

theorem Addressable.legible {schematic : Schematic} (addressable : schematic.Addressable) :
    Json.Legible Json.greatestDepth schematic.encode := by
  refine Plain.legible (Json.plain_schematic (fun _ => id) 121 (isWord_of_lt addressable.height)
    (isWord_of_lt addressable.width) fun tile member => ?_)
  obtain ⟨x, y⟩ := addressable.places tile member
  exact ⟨isWord_of_lt x, isWord_of_lt y⟩

theorem fileText_injective {layout : Json.Layout} (blank : layout.Blank) :
    Function.Injective (fileText layout) := by
  intro schematic other same
  have texts := String.ofList_injective same
  have plain (schematic : Schematic) : Plain (fun _ => True) 6 schematic.encode :=
    Json.plain_schematic (fun _ _ => trivial) 0 trivial trivial fun _ _ => ⟨trivial, trivial⟩
  have ends : Json.EndsNumber ['\n'] := .cons rfl []
  obtain ⟨equal, _⟩ := Json.write_determines blank (plain schematic) 0 other.encode
    ⟨6, plain other⟩ _ _ ends ends texts
  exact encode_injective equal

theorem read_fileText {layout : Json.Layout} (blank : layout.Blank) {schematic : Schematic}
    (addressable : schematic.Addressable) :
    Json.read (schematic.fileText layout) = .ok schematic.encode := by
  have back : Json.readChars (Json.write layout 0 schematic.encode ++ ['\n']) =
      .ok schematic.encode := by
    refine Json.readChars_write blank addressable.legible 0 fun c member => ?_
    rw [List.mem_singleton.mp member]
    rfl
  rw [Json.read, fileText, String.toList_ofList, back]
  rfl

/-- The file of a schematic determines the schematic, in either layout, and the two files of a
schematic are read as the same JSON value, which is the one that was written. -/
theorem files_lose_nothing :
    Function.Injective (fileText .compact) ∧ Function.Injective (fileText .indented) ∧
    ∀ schematic : Schematic, schematic.Addressable →
      Json.read (schematic.fileText .compact) = .ok schematic.encode ∧
      Json.read (schematic.fileText .indented) = .ok schematic.encode := by
  refine ⟨fileText_injective Json.Layout.blank_compact,
    fileText_injective Json.Layout.blank_indented, fun schematic addressable => ?_⟩
  exact ⟨read_fileText Json.Layout.blank_compact addressable,
    read_fileText Json.Layout.blank_indented addressable⟩

/-- A schematic with text that has to be escaped, tags out of order, and a configuration. -/
def labelled (config : BlockConfig) : Schematic where
  height := 1
  width := 18446744073709551615
  version := 1
  tags := .ofList [("\"name\"", "a\\b\n\t"), ("", "\x7b\x7d")]
  labels := ["\u0000"]
  tiles := [
    ⟨"micro-processor", 0, 0, config, 3⟩,
    ⟨"bridge", 18446744073709551614, 0, .pointArray [⟨-2147483648, 2147483647⟩], 0⟩]

theorem labelled_addressable (config : BlockConfig) : (labelled config).Addressable := by
  have one : 1 < Word.count 64 := by decide
  have greatest : 18446744073709551615 < Word.count 64 := by decide
  refine ⟨one, greatest, ?_⟩
  simp only [labelled, List.forall_mem_cons]
  decide

/-- Bytes and a string with the same payload have different files. -/
theorem files_lose_nothing_labelled :
    (labelled (.bytes [0])).Addressable ∧
    Json.read ((labelled (.bytes [0])).fileText .compact) = .ok (labelled (.bytes [0])).encode ∧
    Json.read ((labelled (.bytes [0])).fileText .indented) = .ok (labelled (.bytes [0])).encode ∧
    (BlockConfig.string "AA==").payload? = (BlockConfig.bytes [0]).payload? ∧
    (labelled (.string "AA==")).fileText .compact ≠ (labelled (.bytes [0])).fileText .compact := by
  obtain ⟨onOneLine, _, read⟩ := files_lose_nothing
  have addressable := labelled_addressable (.bytes [0])
  obtain ⟨compact, indented⟩ := read _ addressable
  refine ⟨addressable, compact, indented, rfl, fun same => ?_⟩
  have tiles := congrArg Schematic.tiles (onOneLine same)
  simp [labelled] at tiles

end Schematic

end Blueprint
