import Blueprint.Text.Utf8
import Mathlib.Data.List.Basic

/-!
Reading bytes as text. Text that is written as bytes is read back, and bytes that are no text keep
the characters of one byte that they contain.
-/

namespace Blueprint.Text

theorem utf8_eq_flatMap (text : String) :
    utf8 text = text.toList.flatMap String.utf8EncodeChar := by
  have bytes : text.toUTF8 = (text.toList.flatMap String.utf8EncodeChar).toByteArray := by
    conv_lhs => rw [← String.ofList_toList (s := text)]
    rfl
  rw [utf8, bytes]
  simp

theorem ofUtf8?_utf8 (text : String) : ofUtf8? (utf8 text) = some text := by
  have bytes : (⟨(utf8 text).toArray⟩ : ByteArray) = text.toUTF8 := by simp [utf8]
  rw [ofUtf8?, bytes, String.toUTF8_eq_toByteArray, String.fromUTF8?, dif_pos text.isValidUTF8]
  rfl

/-! ### Reading one byte -/

variable {byte : UInt8} {bytes rest : List UInt8} {begun : Begun} {c : Char}

theorem leads_ordered : leads.Pairwise fun a b => a.last < b.first := by decide

/-- The first byte of a character decides how it goes on. -/
theorem beginWith_lead {lead : Lead} (member : lead ∈ leads) (low : lead.first ≤ byte.toNat)
    (high : byte.toNat ≤ lead.last) : beginWith byte =
      ([], some ⟨[byte], byte.toNat - lead.base, lead.missing, lead.least, lead.greatest⟩) := by
  have several : ¬byte.toNat < 0x80 := by
    have above : ∀ lead ∈ leads, 0x80 ≤ lead.first := by decide
    have := above lead member
    omega
  have found : (leads.find? fun lead => lead.first ≤ byte.toNat ∧ byte.toNat ≤ lead.last) =
      some lead := by
    obtain ⟨before, after, same⟩ := List.append_of_mem member
    refine List.find?_eq_some_iff_append.mpr ⟨by simp [low, high], before, after, same, ?_⟩
    intro other front
    have ordered := leads_ordered
    rw [same, List.pairwise_append] at ordered
    have below := ordered.2.2 other front lead List.mem_cons_self
    simp only [Bool.not_eq_true', decide_eq_false_iff_not]
    omega
  rw [beginWith, if_neg several, found]

theorem continueWith_more (low : begun.least ≤ byte.toNat) (high : byte.toNat ≤ begun.greatest)
    (more : 1 < begun.missing) : begun.continueWith byte =
      ([], some ⟨begun.bytes ++ [byte], 64 * begun.value + (byte.toNat - 0x80), begun.missing - 1,
        0x80, 0xBF⟩) := by
  rw [Begun.continueWith, if_pos ⟨low, high⟩]
  exact if_neg (Nat.not_le.mpr more)

theorem continueWith_last (low : begun.least ≤ byte.toNat) (high : byte.toNat ≤ begun.greatest)
    (last : begun.missing ≤ 1) : begun.continueWith byte =
      ([.char (.ofNat (64 * begun.value + (byte.toNat - 0x80)))], none) := by
  rw [Begun.continueWith, if_pos ⟨low, high⟩]
  exact if_pos last

theorem piecesFrom_begin : piecesFrom none (byte :: rest) =
    (beginWith byte).1 ++ piecesFrom (beginWith byte).2 rest := rfl

theorem piecesFrom_continue : piecesFrom (some begun) (byte :: rest) =
    (begun.continueWith byte).1 ++ piecesFrom (begun.continueWith byte).2 rest := rfl

/-! ### Reading a character -/

/-- A byte that is not the first one of its character, by the six bits that it gives. -/
def laterByte (n : Nat) : UInt8 := .ofNat (n % 64 + 0x80)

theorem toNat_ofNat_byte {n : Nat} (small : n < 256) : (UInt8.ofNat n).toNat = n :=
  Nat.mod_eq_of_lt small

theorem toNat_laterByte (n : Nat) : (laterByte n).toNat = n % 64 + 0x80 :=
  toNat_ofNat_byte (by omega)

/-- The code point that more bits make of those that are known. -/
def codePoint (value : Nat) (more : List Nat) : Nat :=
  more.foldl (fun value n => 64 * value + n % 64) value

theorem piecesFrom_complete {n : Nat} {more : List Nat} (low : begun.least ≤ n % 64 + 0x80)
    (high : n % 64 + 0x80 ≤ begun.greatest) (all : begun.missing = more.length + 1) :
    piecesFrom (some begun) (laterByte n :: more.map laterByte ++ rest) =
      .char (.ofNat (codePoint begun.value (n :: more))) :: piecesFrom none rest := by
  rw [← toNat_laterByte] at low high
  have bits : (laterByte n).toNat - 0x80 = n % 64 := by
    rw [toNat_laterByte, Nat.add_sub_cancel]
  induction more generalizing begun n with
  | nil =>
    rw [List.length_nil] at all
    rw [List.map_nil, List.cons_append, piecesFrom_continue,
      continueWith_last low high (Nat.le_of_eq all), bits]
    rfl
  | cons next more ih =>
    rw [List.length_cons] at all
    rw [List.map_cons, List.cons_append, piecesFrom_continue,
      continueWith_more low high (by omega), bits]
    have remaining : begun.missing - 1 = more.length + 1 := by omega
    have atLeast : 0x80 ≤ (laterByte next).toNat := by
      rw [toNat_laterByte]
      omega
    have atMost : (laterByte next).toNat ≤ 0xBF := by
      rw [toNat_laterByte]
      omega
    have nextBits : (laterByte next).toNat - 0x80 = next % 64 := by
      rw [toNat_laterByte, Nat.add_sub_cancel]
    exact ih atLeast atMost remaining nextBits

theorem piecesFrom_lead {lead : Lead} {bits n : Nat} (more : List Nat) (member : lead ∈ leads)
    (within : lead.first ≤ bits + lead.base ∧ bits + lead.base ≤ lead.last)
    (bounds : lead.least ≤ n % 64 + 0x80 ∧ n % 64 + 0x80 ≤ lead.greatest)
    (all : lead.missing = more.length + 1) :
    piecesFrom none (.ofNat (bits + lead.base) :: laterByte n :: more.map laterByte ++ rest) =
      .char (.ofNat (codePoint bits (n :: more))) :: piecesFrom none rest := by
  have small : bits + lead.base < 256 := by
    have largest : ∀ lead ∈ leads, lead.last < 256 := by decide
    have := largest lead member
    omega
  have first := toNat_ofNat_byte small
  rw [← first] at within
  rw [List.cons_append, piecesFrom_begin, beginWith_lead member within.1 within.2, first,
    Nat.add_sub_cancel]
  exact piecesFrom_complete bounds.1 bounds.2 all

/-- Which row of the table a character of three bytes belongs to. -/
theorem exists_lead_three {v : Nat} (low : 0x7ff < v) (high : v ≤ 0xffff)
    (valid : v < 0xD800 ∨ 0xDFFF < v) : ∃ lead ∈ leads, lead.missing = 2 ∧ lead.base = 0xE0 ∧
      lead.first ≤ v / 4096 % 16 + 0xE0 ∧ v / 4096 % 16 + 0xE0 ≤ lead.last ∧
      lead.least ≤ v / 64 % 64 + 0x80 ∧ v / 64 % 64 + 0x80 ≤ lead.greatest := by
  obtain small | middle | before | behind : v < 0x1000 ∨ 0x1000 ≤ v ∧ v < 0xD000 ∨
      0xD000 ≤ v ∧ v < 0xD800 ∨ 0xE000 ≤ v := by omega
  · refine ⟨⟨0xE0, 0xE0, 0xE0, 2, 0xA0, 0xBF⟩, by simp [leads], rfl, rfl, ?_⟩
    dsimp only
    omega
  · refine ⟨⟨0xE1, 0xEC, 0xE0, 2, 0x80, 0xBF⟩, by simp [leads], rfl, rfl, ?_⟩
    dsimp only
    omega
  · refine ⟨⟨0xED, 0xED, 0xE0, 2, 0x80, 0x9F⟩, by simp [leads], rfl, rfl, ?_⟩
    dsimp only
    omega
  · refine ⟨⟨0xEE, 0xEF, 0xE0, 2, 0x80, 0xBF⟩, by simp [leads], rfl, rfl, ?_⟩
    dsimp only
    omega

theorem exists_lead_four {v : Nat} (low : 0xffff < v) (high : v < 0x110000) :
    ∃ lead ∈ leads, lead.missing = 3 ∧ lead.base = 0xF0 ∧
      lead.first ≤ v / 262144 % 8 + 0xF0 ∧ v / 262144 % 8 + 0xF0 ≤ lead.last ∧
      lead.least ≤ v / 4096 % 64 + 0x80 ∧ v / 4096 % 64 + 0x80 ≤ lead.greatest := by
  obtain small | middle | large : v < 0x40000 ∨ 0x40000 ≤ v ∧ v < 0x100000 ∨ 0x100000 ≤ v := by
    omega
  · refine ⟨⟨0xF0, 0xF0, 0xF0, 3, 0x90, 0xBF⟩, by simp [leads], rfl, rfl, ?_⟩
    dsimp only
    omega
  · refine ⟨⟨0xF1, 0xF3, 0xF0, 3, 0x80, 0xBF⟩, by simp [leads], rfl, rfl, ?_⟩
    dsimp only
    omega
  · refine ⟨⟨0xF4, 0xF4, 0xF0, 3, 0x80, 0x8F⟩, by simp [leads], rfl, rfl, ?_⟩
    dsimp only
    omega

theorem utf8EncodeChar_eq (c : Char) : String.utf8EncodeChar c =
    if c.toNat ≤ 0x7f then [.ofNat c.toNat]
    else if c.toNat ≤ 0x7ff then
      [.ofNat (c.toNat / 64 % 32 + 0xC0), laterByte c.toNat]
    else if c.toNat ≤ 0xffff then
      [.ofNat (c.toNat / 4096 % 16 + 0xE0), laterByte (c.toNat / 64), laterByte c.toNat]
    else
      [.ofNat (c.toNat / 262144 % 8 + 0xF0), laterByte (c.toNat / 4096),
        laterByte (c.toNat / 64), laterByte c.toNat] := rfl

theorem piecesFrom_utf8EncodeChar (c : Char) (rest : List UInt8) :
    piecesFrom none (String.utf8EncodeChar c ++ rest) = .char c :: piecesFrom none rest := by
  have valid : c.toNat < 0xD800 ∨ 0xDFFF < c.toNat ∧ c.toNat < 0x110000 := c.valid
  have back : Char.ofNat c.toNat = c := Char.ofNat_toNat c
  rw [utf8EncodeChar_eq]
  generalize c.toNat = v at valid back
  split
  · next one =>
    have byte : (UInt8.ofNat v).toNat = v := toNat_ofNat_byte (by omega)
    rw [List.singleton_append, piecesFrom_begin, beginWith, byte, if_pos (by omega), back]
    rfl
  split
  · next more two =>
    have row : ⟨0xC2, 0xDF, 0xC0, 1, 0x80, 0xBF⟩ ∈ leads := by simp [leads]
    have within : 0xC2 ≤ v / 64 % 32 + 0xC0 ∧ v / 64 % 32 + 0xC0 ≤ 0xDF := by omega
    have bounds : 0x80 ≤ v % 64 + 0x80 ∧ v % 64 + 0x80 ≤ 0xBF := by omega
    have value : codePoint (v / 64 % 32) [v] = v := by
      simp only [codePoint, List.foldl_cons, List.foldl_nil]
      omega
    refine (piecesFrom_lead [] row within bounds rfl).trans ?_
    rw [value, back]
  split
  · next more three =>
    obtain ⟨lead, row, all, base, low, high, bounds⟩ :=
      exists_lead_three (by omega) three (by omega)
    have value : codePoint (v / 4096 % 16) [v / 64, v] = v := by
      simp only [codePoint, List.foldl_cons, List.foldl_nil]
      omega
    rw [← base] at low high ⊢
    refine (piecesFrom_lead [v] row ⟨low, high⟩ bounds all).trans ?_
    rw [value, back]
  · next more =>
    obtain ⟨lead, row, all, base, low, high, bounds⟩ := exists_lead_four (v := v) (by omega) (by omega)
    have value : codePoint (v / 262144 % 8) [v / 4096, v / 64, v] = v := by
      simp only [codePoint, List.foldl_cons, List.foldl_nil]
      omega
    rw [← base] at low high ⊢
    refine (piecesFrom_lead [v / 64, v] row ⟨low, high⟩ bounds all).trans ?_
    rw [value, back]

/-! ### Reading text -/

theorem pieces_utf8 (text : String) : pieces (utf8 text) = text.toList.map .char := by
  rw [utf8_eq_flatMap, pieces]
  induction text.toList with
  | nil => rfl
  | cons c rest ih => rw [List.flatMap_cons, piecesFrom_utf8EncodeChar, ih, List.map_cons]

@[simp] theorem shown_utf8 (text : String) : shown (utf8 text) = text := by
  have chars : Piece.shown ∘ Piece.char = id := rfl
  rw [shown, pieces_utf8, List.map_map, chars, List.map_id, String.ofList_toList]

theorem utf8_injective : Function.Injective utf8 := Function.LeftInverse.injective shown_utf8

/-! ### Characters of one byte -/

/-- What has begun is no character of one byte, however it goes on. -/
def Begun.IsLong (begun : Begun) : Prop :=
  2 ≤ begun.value ∨ 1 < begun.missing ∧ (1 ≤ begun.value ∨ 0x90 ≤ begun.least)

theorem toNat_ofNat_valid {n : Nat} (valid : n.isValidChar) : (Char.ofNat n).toNat = n := by
  rw [Char.ofNat, dif_pos valid]
  rfl

theorem toNat_ofNat_long {n : Nat} (long : 0x80 ≤ n) :
    (Char.ofNat n).toNat = 0 ∨ 0x80 ≤ (Char.ofNat n).toNat := by
  by_cases valid : n.isValidChar
  · rw [toNat_ofNat_valid valid]
    exact .inr long
  · rw [Char.ofNat, dif_neg valid]
    exact .inl rfl

/-- A character of one byte that is read comes from its byte. -/
structure Faithful (byte : UInt8) (result : List Piece × Option Begun) : Prop where
  short : ∀ c, .char c ∈ result.1 → 0 < c.toNat → c.toNat < 0x80 → byte = .ofNat c.toNat
  long : ∀ begun, result.2 = some begun → begun.IsLong

theorem beginWith_faithful (byte : UInt8) : Faithful byte (beginWith byte) := by
  unfold beginWith
  split
  · next one =>
    refine ⟨fun c member _ _ => ?_, fun begun impossible => by cases impossible⟩
    obtain rfl : c = .ofNat byte.toNat := by simpa using member
    rw [toNat_ofNat_valid (.inl (by omega)), UInt8.ofNat_toNat]
  · split
    · next lead found =>
      refine ⟨fun c impossible => by simp at impossible, fun begun same => ?_⟩
      have rows : ∀ lead ∈ leads, lead.base + 2 ≤ lead.first ∨
          1 < lead.missing ∧ (lead.base + 1 ≤ lead.first ∨ 0x90 ≤ lead.least) := by decide
      have row := rows lead (List.mem_of_find?_eq_some found)
      have within := List.find?_some found
      cases same
      simp only [decide_eq_true_eq] at within
      simp only [Begun.IsLong]
      omega
    · exact ⟨fun c impossible => by simp at impossible, fun begun impossible => by cases impossible⟩

theorem continueWith_faithful (long : begun.IsLong) (byte : UInt8) :
    Faithful byte (begun.continueWith byte) := by
  unfold Begun.continueWith
  rw [Begun.IsLong] at long
  split
  · next bounds =>
    dsimp only
    split
    · next last =>
      refine ⟨fun c member positive small => ?_, fun begun impossible => by cases impossible⟩
      rw [Piece.char.inj (List.mem_singleton.mp member)] at positive small
      have large : 0x80 ≤ 64 * begun.value + (byte.toNat - 0x80) := by omega
      rcases toNat_ofNat_long large with nothing | large
      · exact absurd nothing (Nat.ne_of_gt positive)
      · exact absurd small (Nat.not_lt.mpr large)
    · next more =>
      refine ⟨fun c impossible => by simp at impossible, fun next same => .inl ?_⟩
      rw [← Option.some.inj same]
      dsimp only
      omega
  · obtain ⟨short, long⟩ := beginWith_faithful byte
    exact ⟨fun c member => short c (by simpa using member), long⟩

theorem mem_of_char_mem_pieces {begun? : Option Begun} (long : ∀ begun ∈ begun?, begun.IsLong)
    (positive : 0 < c.toNat) (small : c.toNat < 0x80)
    (member : .char c ∈ piecesFrom begun? bytes) : UInt8.ofNat c.toNat ∈ bytes := by
  induction bytes generalizing begun? with
  | nil => cases begun? <;> simp [piecesFrom] at member
  | cons byte rest ih =>
    have result : ∃ result, Faithful byte result ∧
        piecesFrom begun? (byte :: rest) = result.1 ++ piecesFrom result.2 rest := by
      cases begun? with
      | none => exact ⟨_, beginWith_faithful byte, piecesFrom_begin⟩
      | some begun => exact ⟨_, continueWith_faithful (long begun rfl) byte, piecesFrom_continue⟩
    obtain ⟨result, faithful, read⟩ := result
    rw [read, List.mem_append] at member
    rw [List.mem_cons]
    exact member.imp (fun here => (faithful.short c here positive small).symm)
      fun behind => ih faithful.long behind

/-- What bytes are shown as has no character of one byte but those that are among them. -/
theorem mem_of_mem_shown (positive : 0 < c.toNat) (small : c.toNat < 0x80)
    (member : c ∈ (shown bytes).toList) : UInt8.ofNat c.toNat ∈ bytes := by
  rw [shown, String.toList_ofList, List.mem_map] at member
  obtain ⟨piece, inside, rfl⟩ := member
  cases piece with
  | char c =>
    exact mem_of_char_mem_pieces (fun begun impossible => by cases impossible) positive small inside
  | broken bytes =>
    have replacement : '\uFFFD'.toNat = 0xFFFD := rfl
    rw [Piece.shown, replacement] at small
    omega

theorem le_toNat_laterByte (n : Nat) : 0x80 ≤ (laterByte n).toNat := by
  rw [toNat_laterByte]
  omega

theorem le_of_mem_utf8EncodeChar (several : 0x7f < c.toNat)
    (member : byte ∈ String.utf8EncodeChar c) : 0x80 ≤ byte.toNat := by
  have first {bits base : Nat} (low : 0x80 ≤ base) (high : bits + base < 256) :
      0x80 ≤ (UInt8.ofNat (bits + base)).toNat := by
    rw [toNat_ofNat_byte high]
    omega
  rw [utf8EncodeChar_eq, if_neg (by omega)] at member
  split at member
  · simp only [List.mem_cons, List.not_mem_nil, or_false] at member
    rcases member with rfl | rfl
    · exact first (by omega) (by omega)
    · exact le_toNat_laterByte _
  split at member
  · simp only [List.mem_cons, List.not_mem_nil, or_false] at member
    rcases member with rfl | rfl | rfl
    · exact first (by omega) (by omega)
    · exact le_toNat_laterByte _
    · exact le_toNat_laterByte _
  · simp only [List.mem_cons, List.not_mem_nil, or_false] at member
    rcases member with rfl | rfl | rfl | rfl
    · exact first (by omega) (by omega)
    · exact le_toNat_laterByte _
    · exact le_toNat_laterByte _
    · exact le_toNat_laterByte _

/-- Bytes of longer characters are no characters of their own. -/
theorem mem_of_mem_utf8 {text : String} (small : byte.toNat < 0x80) (member : byte ∈ utf8 text) :
    Char.ofNat byte.toNat ∈ text.toList := by
  rw [utf8_eq_flatMap, List.mem_flatMap] at member
  obtain ⟨c, inside, part⟩ := member
  by_cases one : c.toNat ≤ 0x7f
  · rw [utf8EncodeChar_eq, if_pos one, List.mem_singleton] at part
    rw [part, toNat_ofNat_byte (by omega), Char.ofNat_toNat]
    exact inside
  · have := le_of_mem_utf8EncodeChar (Nat.not_le.mp one) part
    omega

end Blueprint.Text
