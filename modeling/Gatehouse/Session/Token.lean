import Gatehouse.Text.Base64
/-!
Session tokens: 64 random bytes in letters that are safe in addresses.
-/

namespace Gatehouse.Token

/-- How many bytes a token has. -/
def byteCount : Nat := 64

/-- The token of given bytes. -/
def ofBytes (bytes : List UInt8) : String := Base64.encode .urlSafe bytes

/-- The bytes of a number, the highest first. -/
def bytesOf : Nat → Nat → List UInt8
  | 0, _ => []
  | count + 1, n => bytesOf count (n / 256) ++ [UInt8.ofNat n]

/-- The `n`-th token of a supply; the first `2 ^ 512` are distinct. -/
def nth (n : Nat) : String := ofBytes (bytesOf byteCount n)

end Gatehouse.Token
