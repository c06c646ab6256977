import Mathlib.Data.Option.Basic
import Blueprint.Proofs.Text.Utf8
import Blueprint.Schematic.ProcessorLayout

/-!
The layout of a processor's configuration: which numbers have room in it, which one is reported
when several have not, and that a layout read back is what was laid out.
-/

namespace Blueprint.ProcessorLayout

open Text (utf8)

/-! ### Numbers and texts in front of other bytes -/

@[simp] theorem bigEndian_length (width n : Nat) : (bigEndian width n).length = width := by
  induction width generalizing n with
  | zero => rfl
  | succ width ih => simp [bigEndian, ih]

theorem ofBigEndian_append_byte (bytes : List UInt8) (byte : UInt8) :
    ofBigEndian (bytes ++ [byte]) = ofBigEndian bytes * 256 + byte.toNat := by
  simp [ofBigEndian, List.foldl_append]

theorem ofBigEndian_bigEndian (width n : Nat) :
    ofBigEndian (bigEndian width n) = n % Nat.pow 256 width := by
  induction width generalizing n with
  | zero => exact (Nat.mod_one n).symm
  | succ width ih =>
    have digit : (UInt8.ofNat n).toNat = n % 256 := by simp
    have wider : Nat.pow 256 (width + 1) = 256 * Nat.pow 256 width := Nat.pow_succ'
    rw [bigEndian, ofBigEndian_append_byte, ih, digit, wider, Nat.mod_mul]
    omega

theorem takeBytes_append (bytes rest : List UInt8) :
    takeBytes bytes.length (bytes ++ rest) = some (bytes, rest) := by
  simp [takeBytes]

/-- A number that its bytes have room for is read back, whatever follows it. -/
theorem takeNumber_bigEndian {width n : Nat} (fits : n < Nat.pow 256 width) (rest : List UInt8) :
    takeNumber width (bigEndian width n ++ rest) = some (n, rest) := by
  have taken := takeBytes_append (bigEndian width n) rest
  rw [bigEndian_length] at taken
  simp only [takeNumber, taken, ofBigEndian_bigEndian, Nat.mod_eq_of_lt fits, Option.bind_eq_bind,
    Option.bind_some]

theorem takeText_utf8 (text : String) (rest : List UInt8) :
    takeText (utf8 text).length (utf8 text ++ rest) = some (text, rest) := by
  simp only [takeText, takeBytes_append, Text.ofUtf8?_utf8, Option.bind_eq_bind, Option.bind_some]

/-- The two bytes of an offset, which stand for its remainder modulo `2^16`. -/
def offsetBytes (offset : Int32) : List UInt8 :=
  bigEndian 2 (offset.toInt % Word.count 16).toNat

theorem takeOffset_offsetBytes {offset : Int32}
    (fits : -32768 ≤ offset.toInt ∧ offset.toInt ≤ 32767) (rest : List UInt8) :
    takeOffset (offsetBytes offset ++ rest) = some (offset, rest) := by
  have words : ((Word.count 16 : Nat) : Int) = 65536 := rfl
  have half : Word.count 15 = 32768 := rfl
  obtain ⟨n, remainder⟩ : ∃ n : Nat, offset.toInt % 65536 = n :=
    Int.eq_ofNat_of_zero_le (Int.emod_nonneg _ (by decide))
  have room : n < Nat.pow 256 2 := by
    change n < 65536
    omega
  have bytes : offsetBytes offset = bigEndian 2 n := by
    simp only [offsetBytes, words, remainder, Int.toNat_natCast]
  have value : (if n < 32768 then (n : Int) else n - 65536) = offset.toInt := by
    split <;> omega
  simp only [takeOffset, bytes, takeNumber_bigEndian room, Option.bind_eq_bind, Option.bind_some,
    words, half, value, Int32.ofInt_toInt]

/-! ### What the layout has room for -/

/-- The least and the greatest value of a quantity. -/
def Quantity.limits : Quantity → Int × Int
  | codeLength => (0, 2147483647)
  | linkCount => (0, 2147483647)
  | nameLength => (0, 65535)
  | offsetX => (-32768, 32767)
  | offsetY => (-32768, 32767)

/-- Whether a number is beyond the limits of its quantity. -/
def OutOfRange.holds (error : OutOfRange) : Bool :=
  error.value < error.quantity.limits.1 || error.quantity.limits.2 < error.value

theorem OutOfRange.holds_eq_false_iff (error : OutOfRange) :
    error.holds = false ↔
      error.quantity.limits.1 ≤ error.value ∧ error.value ≤ error.quantity.limits.2 := by
  unfold holds
  rw [Bool.or_eq_false_iff, decide_eq_false_iff_not, decide_eq_false_iff_not, Int.not_lt,
    Int.not_lt]

/-- The numbers of a link in the order of the layout, each as the error that it may be. -/
def linkNumbers (link : Link) : List OutOfRange :=
  [⟨.nameLength, (utf8 link.name).length⟩, ⟨.offsetX, link.offset.x.toInt⟩,
    ⟨.offsetY, link.offset.y.toInt⟩]

/-- All numbers of a configuration in the order in which they are checked. -/
def numbers (links : List Link) (code : List String) : List OutOfRange :=
  ⟨.codeLength, (utf8 (joinLines code)).length⟩ :: ⟨.linkCount, links.length⟩
    :: links.flatMap linkNumbers

def linkBytes (link : Link) : List UInt8 :=
  bigEndian 2 (utf8 link.name).length ++ utf8 link.name ++ offsetBytes link.offset.x
    ++ offsetBytes link.offset.y

/-- The layout without any check. -/
def layout (links : List Link) (code : List String) : List UInt8 :=
  versionByte :: (bigEndian 4 (utf8 (joinLines code)).length ++ utf8 (joinLines code)
    ++ bigEndian 4 links.length ++ (links.map linkBytes).flatten)

/-- A result that depends on some numbers being within their limits. -/
def within (numbers : List OutOfRange) (result : α) : Except OutOfRange α :=
  match numbers.find? (·.holds) with
  | some error => .error error
  | none => .ok result

theorem within_bind {first second : List OutOfRange} {value : α} {result : β}
    {next : α → Except OutOfRange β} (step : next value = within second result) :
    (within first value >>= next) = within (first ++ second) result := by
  unfold within at step ⊢
  rw [List.find?_append]
  cases first.find? (·.holds) with
  | some error => rfl
  | none => exact step

/-- The last step of a chain only makes a result out of what came before. -/
theorem within_bind_ok (numbers : List OutOfRange) (value : α) (make : α → β) :
    (within numbers value >>= fun x => .ok (make x)) = within numbers (make value) := by
  unfold within
  cases numbers.find? (·.holds) <;> rfl

theorem within_ok_iff {numbers : List OutOfRange} {value result : α} :
    within numbers value = .ok result ↔ (∀ n ∈ numbers, n.holds = false) ∧ value = result := by
  unfold within
  cases found : numbers.find? (·.holds) with
  | some error =>
    have member := List.mem_of_find?_eq_some found
    have holds := List.find?_some found
    simp only [reduceCtorEq, false_iff, not_and]
    intro none
    rw [none error member] at holds
    cases holds
  | none =>
    simp only [List.find?_eq_none, Bool.not_eq_true] at found
    simp only [Except.ok.injEq]
    exact ⟨fun same => ⟨found, same⟩, fun both => both.2⟩

theorem unsigned_eq {quantity : Quantity} {width bound : Nat} (value : Nat)
    (limits : quantity.limits = (0, (bound : Int) - 1)) :
    unsigned quantity width bound value = within [⟨quantity, value⟩] (bigEndian width value) := by
  unfold unsigned within
  by_cases fits : value < bound
  · have inside : OutOfRange.holds ⟨quantity, value⟩ = false := by
      rw [OutOfRange.holds_eq_false_iff, limits]
      dsimp only
      omega
    simp only [if_pos fits, List.find?_cons, inside, List.find?_nil]
  · have outside : OutOfRange.holds ⟨quantity, value⟩ = true := by
      rw [← Bool.not_eq_false, OutOfRange.holds_eq_false_iff, limits]
      dsimp only
      omega
    simp only [if_neg fits, List.find?_cons, outside]

theorem signed_eq {quantity : Quantity} (value : Int32)
    (limits : quantity.limits = (-32768, 32767)) :
    signed quantity value = within [⟨quantity, value.toInt⟩] (offsetBytes value) := by
  have half : ((Word.count 15 : Nat) : Int) = 32768 := rfl
  have inside :
      OutOfRange.holds ⟨quantity, value.toInt⟩ = false ↔ Word.isSigned 16 value.toInt := by
    rw [OutOfRange.holds_eq_false_iff, limits]
    simp only [Word.isSigned, Nat.add_one_sub_one, half, Bool.and_eq_true, decide_eq_true_eq]
    omega
  unfold signed within
  by_cases fits : Word.isSigned 16 value.toInt
  · simp only [if_pos fits, List.find?_cons, inside.mpr fits, List.find?_nil, offsetBytes]
  · have outside := (not_congr inside).mpr fits
    simp only [if_neg fits, List.find?_cons, Bool.of_not_eq_false outside]

theorem encodeLink_eq (link : Link) :
    encodeLink link = within (linkNumbers link) (linkBytes link) := by
  dsimp only [encodeLink]
  rw [unsigned_eq _ rfl, signed_eq _ rfl, signed_eq _ rfl]
  exact within_bind (within_bind (within_bind_ok _ _ _))

theorem encodeLinks_eq (links : List Link) :
    links.mapM encodeLink = within (links.flatMap linkNumbers) (links.map linkBytes) := by
  induction links with
  | nil => rfl
  | cons link links ih =>
    rw [List.mapM_cons, encodeLink_eq, ih, List.flatMap_cons]
    exact within_bind (within_bind_ok _ _ _)

/-- Laying out is checking the numbers in order and then writing all of them. -/
theorem encode_eq (links : List Link) (code : List String) :
    encode links code = within (numbers links code) (layout links code) := by
  dsimp only [encode]
  rw [unsigned_eq _ rfl, unsigned_eq _ rfl, encodeLinks_eq]
  exact within_bind (within_bind (within_bind_ok _ _ _))

/-! ### Reading back -/

theorem linkNumbers_inside_iff (link : Link) :
    (∀ n ∈ linkNumbers link, n.holds = false) ↔
      (utf8 link.name).length ≤ 65535 ∧
      (-32768 ≤ link.offset.x.toInt ∧ link.offset.x.toInt ≤ 32767) ∧
      -32768 ≤ link.offset.y.toInt ∧ link.offset.y.toInt ≤ 32767 := by
  simp only [linkNumbers, OutOfRange.holds_eq_false_iff, Quantity.limits, List.mem_cons,
    List.not_mem_nil, or_false, forall_eq_or_imp, forall_eq]
  omega

theorem numbers_inside_iff (links : List Link) (code : List String) :
    (∀ n ∈ numbers links code, n.holds = false) ↔
      (utf8 (joinLines code)).length ≤ 2147483647 ∧ links.length ≤ 2147483647 ∧
      ∀ link ∈ links, ∀ n ∈ linkNumbers link, n.holds = false := by
  simp only [numbers, List.mem_cons, List.mem_flatMap, forall_eq_or_imp, forall_exists_index,
    and_imp, OutOfRange.holds_eq_false_iff, Quantity.limits]
  constructor
  · rintro ⟨code, count, inside⟩
    exact ⟨by omega, by omega, fun link member n number => inside n link member number⟩
  · rintro ⟨code, count, inside⟩
    exact ⟨by omega, by omega, fun n link member number => inside link member n number⟩

theorem takeLink_linkBytes {link : Link} (inside : ∀ n ∈ linkNumbers link, n.holds = false)
    (rest : List UInt8) : takeLink (linkBytes link ++ rest) = some (link, rest) := by
  obtain ⟨name, x, y⟩ := (linkNumbers_inside_iff link).mp inside
  have length : (utf8 link.name).length < Nat.pow 256 2 := Nat.lt_succ_of_le name
  simp only [takeLink, linkBytes, List.append_assoc, takeNumber_bigEndian length, takeText_utf8,
    takeOffset_offsetBytes x, takeOffset_offsetBytes y, Option.bind_eq_bind, Option.bind_some]

theorem takeLinks_linkBytes {links : List Link}
    (inside : ∀ link ∈ links, ∀ n ∈ linkNumbers link, n.holds = false) (rest : List UInt8) :
    takeLinks links.length ((links.map linkBytes).flatten ++ rest) = some (links, rest) := by
  induction links with
  | nil => rfl
  | cons link links ih =>
    have first := inside link List.mem_cons_self
    have others := ih fun other member => inside other (List.mem_cons_of_mem link member)
    simp only [List.map_cons, List.flatten_cons, List.append_assoc, List.length_cons, takeLinks,
      takeLink_linkBytes first, others, Option.bind_eq_bind, Option.bind_some]

theorem decode_layout {links : List Link} {code : List String}
    (inside : ∀ n ∈ numbers links code, n.holds = false) :
    decode (layout links code) = some (joinLines code, links) := by
  obtain ⟨text, count, each⟩ := (numbers_inside_iff links code).mp inside
  have textFits : (utf8 (joinLines code)).length < Nat.pow 256 4 := by
    change _ < 4294967296
    omega
  have countFits : links.length < Nat.pow 256 4 := by
    change _ < 4294967296
    omega
  have linksRead := takeLinks_linkBytes each []
  rw [List.append_nil] at linksRead
  simp only [decode, layout, List.append_assoc, takeNumber_bigEndian textFits, takeText_utf8,
    takeNumber_bigEndian countFits, linksRead, Option.bind_eq_bind, Option.bind_some]
  rfl

/-- What has been laid out is read back whole. -/
theorem decode_encode {links : List Link} {code : List String} {bytes : List UInt8}
    (success : encode links code = .ok bytes) :
    decode bytes = some (joinLines code, links) := by
  rw [encode_eq, within_ok_iff] at success
  rw [← success.2]
  exact decode_layout success.1

end Blueprint.ProcessorLayout
