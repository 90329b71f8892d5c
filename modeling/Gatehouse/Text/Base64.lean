/-!
Bytes as text in the alphabets of 64 characters, without padding. Reading is strict: no padding, no
bits left over, no other character.
-/

namespace Gatehouse.Base64

/-- Which two characters follow the letters and digits. -/
inductive Alphabet where
  | standard
  | urlSafe
deriving DecidableEq

/-- The 64 characters in order. -/
def Alphabet.characters : Alphabet → List Char
  | .standard => "ABCDEFGHIJKLMNOPQRSTUVWXYZabcdefghijklmnopqrstuvwxyz0123456789+/".toList
  | .urlSafe => "ABCDEFGHIJKLMNOPQRSTUVWXYZabcdefghijklmnopqrstuvwxyz0123456789-_".toList

/-- The character of a number below 64. -/
def Alphabet.char (a : Alphabet) (n : Nat) : Char := a.characters.getD n 'A'

/-- The number of a character. -/
def Alphabet.value? (a : Alphabet) (c : Char) : Option Nat := a.characters.findIdx? (· == c)

/-- The text of bytes. -/
def encodeChars (a : Alphabet) : List UInt8 → List Char
  | [] => []
  | [x] =>
    let n := x.toNat * 16
    [a.char (n / 64), a.char (n % 64)]
  | [x, y] =>
    let n := (x.toNat * 256 + y.toNat) * 4
    [a.char (n / 4096), a.char (n / 64 % 64), a.char (n % 64)]
  | x :: y :: z :: rest =>
    let n := (x.toNat * 256 + y.toNat) * 256 + z.toNat
    a.char (n / 262144) :: a.char (n / 4096 % 64) :: a.char (n / 64 % 64) :: a.char (n % 64)
      :: encodeChars a rest

/-- The bytes of a text; the bits that its last character has left over must be zero. -/
def decodeChars? (a : Alphabet) : List Char → Option (List UInt8)
  | [] => some []
  | [_] => none
  | [c, d] => do
    let n := (← a.value? c) * 64 + (← a.value? d)
    if n % 16 = 0 then pure [UInt8.ofNat (n / 16)] else none
  | [c, d, e] => do
    let n := ((← a.value? c) * 64 + (← a.value? d)) * 64 + (← a.value? e)
    if n % 4 = 0 then pure [UInt8.ofNat (n / 1024), UInt8.ofNat (n / 4)] else none
  | c :: d :: e :: f :: rest => do
    let n := (((← a.value? c) * 64 + (← a.value? d)) * 64 + (← a.value? e)) * 64 + (← a.value? f)
    let bytes ← decodeChars? a rest
    pure (UInt8.ofNat (n / 65536) :: UInt8.ofNat (n / 256) :: UInt8.ofNat n :: bytes)

/-- The text of bytes. -/
def encode (a : Alphabet) (bytes : List UInt8) : String := String.ofList (encodeChars a bytes)

/-- The bytes of a text. -/
def decode? (a : Alphabet) (s : String) : Option (List UInt8) := decodeChars? a s.toList

end Gatehouse.Base64
