/-!
Bytes as text: three bytes become four characters, each of which stands for six bits. Padding
fills the last group.
-/

namespace Blueprint.Base64

def digit (n : Nat) : Char :=
  if n < 26 then .ofNat ('A'.toNat + n)
  else if n < 52 then .ofNat ('a'.toNat + (n - 26))
  else if n < 62 then .ofNat ('0'.toNat + (n - 52))
  else if n = 62 then '+'
  else '/'

/-- The digits of a number to base 64 at three of its places. -/
def digitAt (n place : Nat) : Char := digit (n / Nat.pow 64 place % 64)

def encode : List UInt8 → List Char
  | [] => []
  | [a] =>
    let n := a.toNat * 65536
    [digitAt n 3, digitAt n 2, '=', '=']
  | [a, b] =>
    let n := a.toNat * 65536 + b.toNat * 256
    [digitAt n 3, digitAt n 2, digitAt n 1, '=']
  | a :: b :: c :: rest =>
    let n := a.toNat * 65536 + b.toNat * 256 + c.toNat
    digitAt n 3 :: digitAt n 2 :: digitAt n 1 :: digitAt n 0 :: encode rest

end Blueprint.Base64
