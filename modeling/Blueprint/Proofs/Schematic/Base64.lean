import Mathlib.Logic.Function.Basic
import Blueprint.Schematic.Base64

/-!
Reading bytes back from their base 64 text. Four characters hold three bytes, and the padding of
the last group tells how many of them count.
-/

namespace Blueprint.Base64

/-- The number below 64 that a digit stands for. -/
def digitValue (c : Char) : Nat :=
  if c.isUpper then c.toNat - 'A'.toNat
  else if c.isLower then c.toNat - 'a'.toNat + 26
  else if c.isDigit then c.toNat - '0'.toNat + 52
  else if c = '+' then 62
  else 63

/-- The bytes of a padded text, group by group. -/
def decode : List Char → List UInt8
  | first :: second :: third :: fourth :: rest =>
    let one := digitValue first * 262144 + digitValue second * 4096
    let two := one + digitValue third * 64
    let three := two + digitValue fourth
    if third = '=' then [.ofNat (one / 65536)]
    else if fourth = '=' then [.ofNat (two / 65536), .ofNat (two / 256)]
    else .ofNat (three / 65536) :: .ofNat (three / 256) :: .ofNat three :: decode rest
  | _ => []

theorem digitValue_digit : ∀ n < 64, digitValue (digit n) = n := by
  decide

/-- Padding is not a digit. -/
theorem digit_ne_padding : ∀ n < 64, digit n ≠ '=' := by
  decide

theorem digitValue_digitAt (n place : Nat) :
    digitValue (digitAt n place) = n / Nat.pow 64 place % 64 :=
  digitValue_digit _ (Nat.mod_lt _ (by decide))

theorem digitAt_ne_padding (n place : Nat) : digitAt n place ≠ '=' :=
  digit_ne_padding _ (Nat.mod_lt _ (by decide))

/-- The first two digits of a number of 24 bits hold its first 12 bits, a third one 6 more, and all
four the whole number. -/
theorem digits_value {n : Nat} (small : n < 16777216) :
    digitValue (digitAt n 3) * 262144 + digitValue (digitAt n 2) * 4096 = n / 4096 * 4096 ∧
    n / 4096 * 4096 + digitValue (digitAt n 1) * 64 = n / 64 * 64 ∧
    n / 64 * 64 + digitValue (digitAt n 0) = n := by
  simp only [digitValue_digitAt]
  change n / 262144 % 64 * 262144 + n / 4096 % 64 * 4096 = n / 4096 * 4096 ∧
    n / 4096 * 4096 + n / 64 % 64 * 64 = n / 64 * 64 ∧ n / 64 * 64 + n / 1 % 64 = n
  omega

theorem ofNat_eq (byte : UInt8) {n : Nat} (same : n % 256 = byte.toNat) : .ofNat n = byte := by
  rw [← UInt8.toNat_inj, UInt8.toNat_ofNat', ← same]

theorem decode_encode (bytes : List UInt8) : decode (encode bytes) = bytes := by
  induction bytes using encode.induct with
  | case1 => rfl
  | case2 a =>
    have byteA := a.toNat_lt
    obtain ⟨one, _, _⟩ := digits_value (n := a.toNat * 65536) (by omega)
    simp only [encode, decode, one, if_true]
    rw [ofNat_eq a (by omega)]
  | case3 a b =>
    have byteA := a.toNat_lt
    have byteB := b.toNat_lt
    obtain ⟨one, two, _⟩ := digits_value (n := a.toNat * 65536 + b.toNat * 256) (by omega)
    simp only [encode, decode, one, two, digitAt_ne_padding, if_false, if_true]
    rw [ofNat_eq a (by omega), ofNat_eq b (by omega)]
  | case4 a b c rest ih =>
    have byteA := a.toNat_lt
    have byteB := b.toNat_lt
    have byteC := c.toNat_lt
    obtain ⟨one, two, three⟩ :=
      digits_value (n := a.toNat * 65536 + b.toNat * 256 + c.toNat) (by omega)
    simp only [encode, decode, one, two, three, digitAt_ne_padding, if_false, ih]
    rw [ofNat_eq a (by omega), ofNat_eq b (by omega),
      ofNat_eq c (by omega)]

/-- Different bytes have different texts. -/
theorem encode_injective : Function.Injective encode :=
  Function.LeftInverse.injective decode_encode

end Blueprint.Base64
